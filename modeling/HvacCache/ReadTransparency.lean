import HvacCache.CallProgress

/-! Read transparency: every call an application makes through the wrappers can return,
and what the calls return is, call by call, what plain calls would have returned. -/

namespace HvacCache

open Posix Transition

def ClientAction.calls : ClientAction → List ClientAction
  | .wake => []
  | action => [action]

def ClusterAction.called (client : Nat) : ClusterAction → List ClientAction
  | .call caller action => if caller = client then action.calls else []
  | _ => []

def callsOf (client : Nat) (actions : List ClusterAction) : List ClientAction :=
  actions.flatMap (ClusterAction.called client)

def Answers (env : ClientEnv) : ClientAction → Event → Prop
  | .openCall pathname flags fd, .opened file mode seen =>
      file = env.resolve pathname ∧ mode = flags.access ∧ seen = fd
  | .openCall _ _ fd, .openFailed => fd = -1
  | .readCall fd count, .read seen asked _ => seen = fd ∧ asked = count
  | .preadCall fd count offset, .pread seen asked start _ =>
      seen = fd ∧ asked = count ∧ start = offset
  | .closeCall fd, .closed seen _ => seen = fd
  | _, _ => False

def Pending (env : ClientEnv) : ClientPc → List ClientAction → Prop
  | .idle, pending => pending = []
  | .openBlock file mode fd, pending => ∃ pathname flags, pending = [.openCall pathname flags fd] ∧
      file = env.resolve pathname ∧ mode = flags.access
  | .readBlock fd count, pending => pending = [.readCall fd count]
  | .preadBlock fd count offset, pending => pending = [.preadCall fd count offset]
  | .aborted, _ => True

def Tallied (env : ClientEnv) (client : Client) (calls : List ClientAction) : Prop :=
  ∃ answered pending, calls = answered ++ pending ∧
    List.Forall₂ (Answers env) answered client.trace ∧ Pending env client.pc pending

section
variable {env : ClientEnv} {contents : String → Option Bytes} {self : Nat} {client next : Client}
  {calls : List ClientAction}

theorem Tallied.returned (tallied : Tallied env client calls) (idle : client.pc = .idle)
    {action : ClientAction} {event : Event} (traced : next.trace = client.trace ++ [event])
    (ended : next.pc = .idle) (answers : Answers env action event) :
    Tallied env next (calls ++ [action]) := by
  obtain ⟨answered, pending, same, all, blocked⟩ := tallied
  rw [idle] at blocked
  have none : pending = [] := blocked
  subst pending
  refine ⟨answered ++ [action], [], by simp [same], ?_, by rw [ended]; rfl⟩
  rw [traced]
  exact List.rel_append all (.cons answers .nil)

theorem Tallied.blocks (tallied : Tallied env client calls) (idle : client.pc = .idle)
    {action : ClientAction} (traced : next.trace = client.trace)
    (blocked : Pending env next.pc [action]) : Tallied env next (calls ++ [action]) := by
  obtain ⟨answered, pending, same, all, settled⟩ := tallied
  rw [idle] at settled
  have none : pending = [] := settled
  subst pending
  exact ⟨answered, [action], by simp [same], by rw [traced]; exact all, blocked⟩

theorem Tallied.woken (tallied : Tallied env client calls) {event : Event}
    (traced : next.trace = client.trace ++ [event]) (ended : next.pc = .idle)
    (answers : ∀ pending, Pending env client.pc pending →
      ∃ action, pending = [action] ∧ Answers env action event) :
    Tallied env next (calls ++ ClientAction.wake.calls) := by
  rw [ClientAction.calls, List.append_nil]
  obtain ⟨answered, pending, same, all, blocked⟩ := tallied
  obtain ⟨action, only, answer⟩ := answers pending blocked
  subst pending
  refine ⟨answered ++ [action], [], by simp [same], ?_, by rw [ended]; rfl⟩
  rw [traced]
  exact List.rel_append all (.cons answer .nil)

theorem ClientEffect.tallied {action : ClientAction} {outgoing : Outgoing}
    (effect : ClientEffect env contents self client action next outgoing)
    (tallied : Tallied env client calls) :
    Tallied env next (calls ++ action.calls) := by
  cases effect with
  | openFailed pathname flags idle => exact tallied.returned idle rfl rfl rfl
  | openUntracked pathname flags fd idle unused present untracked =>
      exact tallied.returned idle rfl rfl ⟨rfl, rfl, rfl⟩
  | openTracked pathname flags fd path address cache idle unused present tracked routed =>
      exact tallied.blocks idle rfl ⟨pathname, flags, rfl, rfl, rfl⟩
  | readUntracked fd count idle untracked => exact tallied.returned idle rfl rfl ⟨rfl, rfl⟩
  | readTracked fd count path address cache idle tracked routed =>
      exact tallied.blocks idle rfl rfl
  | preadUntracked fd count offset idle untracked =>
      exact tallied.returned idle rfl rfl ⟨rfl, rfl, rfl⟩
  | preadLocal fd count offset path idle tracked unredirected =>
      exact tallied.returned idle rfl rfl ⟨rfl, rfl, rfl⟩
  | preadTracked fd count offset path address cache idle tracked redirected routed =>
      exact tallied.blocks idle rfl rfl
  | closeUntracked fd idle untracked => exact tallied.returned idle rfl rfl rfl
  | closeTracked fd path address cache idle tracked routed =>
      exact tallied.returned idle rfl rfl rfl
  | aborted action path idle unrouted =>
      obtain ⟨answered, pending, same, all, _⟩ := tallied
      exact ⟨answered, pending ++ _, by rw [same, List.append_assoc], all, trivial⟩
  | wakeOpen file mode fd ready blocked =>
      refine tallied.woken rfl rfl fun pending asked => ?_
      rw [blocked] at asked
      obtain ⟨pathname, flags, only, sameFile, sameMode⟩ := asked
      exact ⟨_, only, sameFile, sameMode, rfl⟩
  | wakeRead fd count ready blocked returned =>
      refine tallied.woken rfl rfl fun pending asked => ?_
      rw [blocked] at asked
      exact ⟨_, asked, rfl, rfl⟩
  | wakeReadLocal fd count ready blocked failed =>
      refine tallied.woken rfl rfl fun pending asked => ?_
      rw [blocked] at asked
      exact ⟨_, asked, rfl, rfl⟩
  | wakePread fd count offset ready blocked returned =>
      refine tallied.woken rfl rfl fun pending asked => ?_
      rw [blocked] at asked
      exact ⟨_, asked, rfl, rfl, rfl⟩
  | wakePreadLocal fd count offset ready blocked failed =>
      refine tallied.woken rfl rfl fun pending asked => ?_
      rw [blocked] at asked
      exact ⟨_, asked, rfl, rfl, rfl⟩

end

section
variable {env : Nat → ClientEnv} {contents : String → Option Bytes} {cluster next : Cluster}
  {client : Nat} {actions : List ClusterAction}

theorem ClusterEffect.tallied {action : ClusterAction} {calls : List ClientAction}
    (effect : ClusterEffect env contents cluster action next)
    (tallied : Tallied (env client) (cluster.clients client) calls) :
    Tallied (env client) (next.clients client) (calls ++ action.called client) := by
  cases effect with
  | called caller action state outgoing effect =>
      rw [clients_post]
      by_cases same : caller = client
      · subst caller
        simpa [ClusterAction.called] using effect.tallied tallied
      · rw [clients_setClient_other state (Ne.symm same)]
        simpa [ClusterAction.called, same] using tallied
  | accepted id address request state found effect =>
      simpa [ClusterAction.called] using tallied
  | served address action state response serving effect =>
      simpa [ClusterAction.called] using tallied
  | answered id address response state found received =>
      simp only [ClusterAction.called, List.append_nil]
      by_cases same : client = response.client
      · subst client
        obtain ⟨samePc, sameTrace, _⟩ := receive_frame received
        rw [clients_setClient_same, Tallied, samePc, sameTrace]
        exact tallied
      · rw [clients_setClient_other state same]
        exact tallied

theorem run_tallied (client : Nat)
    (ran : run (clusterStep env contents) Cluster.initial actions = some cluster) :
    Tallied (env client) (cluster.clients client) (callsOf client actions) := by
  have preserved : ∀ earlier before action after,
      Tallied (env client) (before.clients client) (callsOf client earlier) →
      clusterStep env contents before action = some after →
      Tallied (env client) (after.clients client) (callsOf client (earlier ++ [action])) := by
    intro earlier before action after tallied stepped
    simpa [callsOf] using (clusterStep_effect stepped).tallied tallied
  have initial : Tallied (env client) (Cluster.initial.clients client) (callsOf client []) :=
    ⟨[], [], rfl, .nil, rfl⟩
  exact run_history preserved initial ran

theorem callsOf_answering {later : List ClusterAction} {final : Cluster}
    (answering : Meets (clusterStep env contents) (Answering client) cluster later)
    (ran : run (clusterStep env contents) cluster later = some final) :
    callsOf client later = [] := by
  have quiet := forall_of_meets (fun action => action.called client = []) ?_ answering ran
  · exact List.flatMap_eq_nil_iff.mpr quiet
  · rintro state action ⟨_, wakes⟩
    cases action with
    | call caller call =>
        obtain ⟨_, isWake⟩ := wakes caller call rfl
        simp [ClusterAction.called, ClientAction.calls, isWake]
    | _ => rfl

theorem run_alive (registered : ∀ client, Registered (env client))
    (faithful : Meets (clusterStep env contents) Faithful Cluster.initial actions)
    (ran : run (clusterStep env contents) Cluster.initial actions = some cluster) :
    Alive env contents cluster := by
  have preserved : ∀ before action after, Alive env contents before → Faithful before action →
      clusterStep env contents before action = some after → Alive env contents after := by
    intro before action after alive guarded stepped
    exact (clusterStep_effect stepped).alive registered guarded alive
  exact run_invariant_of_meets preserved alive_initial faithful ran

/-- The events are, result for result, a history of plain calls on the files. -/
def Plain (contents : String → Option Bytes) (trace : List Event) : Prop :=
  ∃ table, run (replay contents) ∅ trace = some table

/-- What the application has seen is the answers to its calls so far, all but the one in
progress, and is a plain history. If the application just waits, its last call can return,
and then the answers to all its calls are a plain history. -/
structure ReadTransparent (env : Nat → ClientEnv) (contents : String → Option Bytes)
    (actions : List ClusterAction) (cluster : Cluster) (client : Nat) : Prop where
  seen : Tallied (env client) (cluster.clients client) (callsOf client actions)
  plain : Plain contents (cluster.clients client).trace
  returns : ∃ later final, Meets (clusterStep env contents) (Answering client) cluster later ∧
    run (clusterStep env contents) cluster later = some final ∧
    (final.clients client).pc = .idle ∧
    (cluster.clients client).trace <+: (final.clients client).trace ∧
    List.Forall₂ (Answers (env client)) (callsOf client actions) (final.clients client).trace ∧
    Plain contents (final.clients client).trace

/-- In every run in which server calls do not fail, with every server registered. -/
theorem read_transparency (env : Nat → ClientEnv) (contents : String → Option Bytes)
    (registered : ∀ client, Registered (env client)) (actions : List ClusterAction)
    (cluster : Cluster)
    (faithful : Meets (clusterStep env contents) Faithful Cluster.initial actions)
    (ran : run (clusterStep env contents) Cluster.initial actions = some cluster)
    (client : Nat) : ReadTransparent env contents actions cluster client := by
  have alive := run_alive registered faithful ran
  obtain ⟨table, shown, mirror⟩ := alive.transparent.mirrors client
  refine ⟨run_tallied client ran, ⟨table, mirror.replayed⟩, ?_⟩
  obtain ⟨later, final, answering, finished, kept, idle, extended⟩ : Reaches
      (clusterStep env contents) (Answering client) (fun final => Alive env contents final ∧
        (final.clients client).pc = .idle ∧
        (cluster.clients client).trace <+: (final.clients client).trace) cluster := by
    by_cases idle : (cluster.clients client).pc = .idle
    · exact Reaches.here ⟨alive, idle, List.prefix_rfl⟩
    · obtain ⟨later, final, answering, finished, kept, ended, event, traced⟩ :=
        alive.returns registered idle
      exact ⟨later, final, answering, finished, kept, ended, [event], traced.symm⟩
  obtain ⟨finalTable, finalShown, finalMirror⟩ := kept.transparent.mirrors client
  refine ⟨later, final, answering, finished, idle, extended, ?_, ⟨finalTable, finalMirror.replayed⟩⟩
  have whole := (run_append Cluster.initial actions later final).mpr ⟨cluster, ran, finished⟩
  obtain ⟨answered, pending, same, all, settled⟩ := run_tallied client whole
  rw [idle] at settled
  have none : pending = [] := settled
  subst pending
  have sameCalls : callsOf client (actions ++ later) = callsOf client actions ++ [] := by
    rw [← callsOf_answering answering finished]
    exact List.flatMap_append
  rw [sameCalls, List.append_nil, List.append_nil] at same
  exact same ▸ all

theorem twoServers_registered : Registered twoServers := ⟨by decide, by decide⟩

def closeAndCopy : List ServerAction :=
  [.closeFd, .lockQueue, .signalMover, .pushPath, .unlockQueue, .erasePath, .moverWake,
    .moverDrain, .moverDrain] ++ copyFront "/bb/AAA"

def readAgain : List ClusterAction :=
  [.serve "s0" .moverLock, .serve "s0" .moverWait,
    .call 0 (.openCall "/d/f" readOnly 3), .deliverRequest 0, .serve "s0" .redirect,
    .serve "s0" (.openFile 5), .deliverResponse 1, .call 0 .wake,
    .call 0 (.readCall 3 2), .deliverRequest 2, .serve "s0" (.readFile false),
    .deliverResponse 3, .call 0 .wake, .call 0 (.closeCall 3), .deliverRequest 4] ++
  closeAndCopy.map (.serve "s0") ++
  [.call 0 (.openCall "/d/f" readOnly 3), .deliverRequest 5, .serve "s0" .redirect,
    .serve "s0" (.openFile 5), .deliverResponse 6, .call 0 .wake,
    .call 0 (.preadCall 3 2 1), .deliverRequest 7, .serve "s0" (.readFile false),
    .deliverResponse 8, .call 0 .wake, .call 0 (.readCall 3 9), .deliverRequest 9,
    .serve "s0" (.readFile false), .deliverResponse 10]

theorem read_transparency_readAgain : ∃ cluster,
    run (clusterStep (fun _ => twoServers) oneFile) Cluster.initial readAgain = some cluster ∧
      (cluster.clients 0).trace = [
        .opened "/d/f" .readOnly 3, .read 3 2 { ret := 2, data := [1, 2] }, .closed 3 0,
        .opened "/d/f" .readOnly 3, .pread 3 2 1 { ret := 2, data := [2, 3] }] ∧
      (cluster.clients 0).pc = .readBlock 3 9 ∧
      ReadTransparent (fun _ => twoServers) oneFile readAgain cluster 0 := by
  have reached : (run (clusterStep (fun _ => twoServers) oneFile) Cluster.initial readAgain).map
      (fun cluster => ((cluster.clients 0).trace, (cluster.clients 0).pc)) =
      some ([.opened "/d/f" .readOnly 3, .read 3 2 { ret := 2, data := [1, 2] }, .closed 3 0,
        .opened "/d/f" .readOnly 3, .pread 3 2 1 { ret := 2, data := [2, 3] }],
        .readBlock 3 9) := by decide
  obtain ⟨cluster, ran, facts⟩ := Option.map_eq_some_iff.mp reached
  simp only [Prod.mk.injEq] at facts
  exact ⟨cluster, ran, facts.1, facts.2, read_transparency (fun _ => twoServers) oneFile
    (fun _ => twoServers_registered) readAgain cluster (by decide) ran 0⟩

end

end HvacCache
