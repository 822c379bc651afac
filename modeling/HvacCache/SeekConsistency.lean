import HvacCache.Library.Seek
import HvacCache.Simulation

/-! Seeks among the reads. No `lseek` wrapper is compiled: libc takes the call and moves
the local descriptor, while the offset that counts for a tracked file is on its server;
`hvac_remote_lseek` and the seek RPC that would move it are called from nowhere. -/

namespace HvacCache

open Posix Transition

/-- Not wrapped: libc's `lseek`, on a tracked descriptor as on any other. -/
def lseekCall (contents : String → Option Bytes) (client : Client) (fd offset : Int)
    (whence : Whence) : Int × Client :=
  let outcome := lseek contents client.kernel fd offset whence
  (outcome.1, { client with kernel := outcome.2 })

structure SeekSystem where
  cluster : Cluster
  history : Nat → List SeekEvent

def SeekSystem.initial : SeekSystem := { cluster := .initial, history := fun _ => [] }

inductive SeekAction
  | act (action : ClusterAction)
  | lseek (client : Nat) (fd offset : Int) (whence : Whence)
deriving DecidableEq, Repr

def newCalls (before after : Client) : List SeekEvent :=
  (after.trace.drop before.trace.length).map .call

def seekStep (env : Nat → ClientEnv) (contents : String → Option Bytes) (system : SeekSystem) :
    SeekAction → Option SeekSystem
  | .act action =>
      (clusterStep env contents system.cluster action).map fun cluster => {
        cluster
        history := fun client => system.history client ++
          newCalls (system.cluster.clients client) (cluster.clients client) }
  | .lseek client fd offset whence =>
      let state := system.cluster.clients client
      if state.pc = .idle ∧ (state.fdMap[fd]?).isSome then
        let outcome := lseekCall contents state fd offset whence
        some {
          cluster := system.cluster.setClient client outcome.2
          history := Function.update system.history client
            (system.history client ++ [.lseek fd offset whence outcome.1]) }
      else none

/-- Server calls do not fail, a count fits in a request, and a read starts where the seeks
before it have had no net effect. -/
def SeeksCancel (contents : String → Option Bytes) (system : SeekSystem) : SeekAction → Prop
  | .act (.call client (.readCall fd count)) =>
      count < 2 ^ 31 ∧ Undisplaced contents (system.history client) fd
  | .act action => Servable system.cluster action
  | .lseek _ _ _ _ => True

instance (contents : String → Option Bytes) (system : SeekSystem) (action : SeekAction) :
    Decidable (SeeksCancel contents system action) := by
  unfold SeeksCancel
  split <;> infer_instance

/-- The client's calls as plain calls: `table` follows them without the seeks, as the servers
do, and `moved` with them. -/
structure Sought (contents : String → Option Bytes) (client : Client)
    (history : List SeekEvent) (table moved : Table) : Prop where
  calls : history.filter SeekEvent.isCall = client.trace.map .call
  plain : run (replay contents) ∅ client.trace = some table
  sought : run (replaySeek contents) ∅ history = some moved
  sameFiles : SameFiles table moved
  untracked : client.pc ≠ .aborted → ∀ fd : Int, client.fdMap[fd]? = none →
    table[fd]? = moved[fd]?
  reading : ∀ fd count, client.pc = .readBlock fd count → table[fd]? = moved[fd]?

section
variable {env : ClientEnv} {contents : String → Option Bytes} {self : Nat}
  {client next : Client} {history : List SeekEvent} {table moved after : Table}

theorem sought_initial : Sought contents Client.initial [] ∅ ∅ := by
  refine ⟨rfl, rfl, rfl, SameFiles.refl ∅, fun _ _ _ => rfl, ?_⟩
  intro fd count reading
  simp [Client.initial] at reading

theorem Sought.undisplaced_eq (sought : Sought contents client history table moved) {fd : Int}
    (undisplaced : Undisplaced contents history fd) : table[fd]? = moved[fd]? := by
  have alone : run (replaySeek contents) ∅ (history.filter SeekEvent.isCall) = some table := by
    rw [sought.calls, run_replaySeek_calls]
    exact sought.plain
  rw [Undisplaced, tableAfter_eq sought.sought, tableAfter_eq alone] at undisplaced
  exact sought.sameFiles.eq_of_position undisplaced.symm

theorem newCalls_same (traced : next.trace = client.trace) : newCalls client next = [] := by
  simp [newCalls, traced]

theorem newCalls_event {event : Event} (traced : next.trace = client.trace ++ [event]) :
    newCalls client next = [.call event] := by
  simp [newCalls, traced]

theorem Sought.keep (sought : Sought contents client history table moved)
    (traced : next.trace = client.trace)
    (untracked : next.pc ≠ .aborted → client.pc ≠ .aborted ∧
      ∀ fd : Int, next.fdMap[fd]? = none → client.fdMap[fd]? = none)
    (reading : ∀ fd count, next.pc = .readBlock fd count → table[fd]? = moved[fd]?) :
    Sought contents next (history ++ newCalls client next) table moved := by
  rw [newCalls_same traced, List.append_nil]
  refine ⟨by rw [traced]; exact sought.calls, by rw [traced]; exact sought.plain, sought.sought,
    sought.sameFiles, ?_, reading⟩
  intro alive fd missing
  obtain ⟨before, kept⟩ := untracked alive
  exact sought.untracked before fd (kept fd missing)

theorem Sought.of_same (sought : Sought contents client history table moved)
    (sameTrace : next.trace = client.trace) (sameMap : next.fdMap = client.fdMap)
    (samePc : next.pc = client.pc) :
    Sought contents next (history ++ newCalls client next) table moved := by
  refine sought.keep sameTrace ?_ ?_
  · rw [samePc, sameMap]
    exact fun alive => ⟨alive, fun _ missing => missing⟩
  · rw [samePc]
    exact sought.reading

theorem Sought.return (sought : Sought contents client history table moved) {event : Event}
    (traced : next.trace = client.trace ++ [event])
    (replayed : run (replay contents) ∅ next.trace = some after) (ended : next.pc = .idle)
    (alive : client.pc ≠ .aborted)
    (kept : ∀ fd : Int, next.fdMap[fd]? = none →
      client.fdMap[fd]? = none ∨ ∃ ret, event = .closed fd ret)
    (reads : ∀ fd count result, event = .read fd count result → table[fd]? = moved[fd]?) :
    ∃ movedAfter, Sought contents next (history ++ newCalls client next) after movedAfter := by
  rw [newCalls_event traced]
  have stepped : replay contents table event = some after := by
    rw [traced, run_concat] at replayed
    obtain ⟨middle, reached, last⟩ := replayed
    rw [sought.plain, Option.some.injEq] at reached
    exact reached ▸ last
  obtain ⟨movedAfter, replayedMoved, sameFiles, entries⟩ :=
    replay_sameFiles sought.sameFiles reads stepped
  refine ⟨movedAfter, ?_, replayed, ?_, sameFiles, ?_, ?_⟩
  · rw [List.filter_append, sought.calls, traced]
    simp [SeekEvent.isCall]
  · exact (run_concat ∅ history (SeekEvent.call event) movedAfter).mpr
      ⟨moved, sought.sought, replayedMoved⟩
  · intro _ fd missing
    exact entries fd ((kept fd missing).imp_left (sought.untracked alive fd))
  · intro fd count reading
    simp [ended] at reading

theorem ClientEffect.sought {action : ClientAction} {outgoing : Outgoing}
    (effect : ClientEffect env contents self client action next outgoing)
    (sought : Sought contents client history table moved)
    (replayed : run (replay contents) ∅ next.trace = some after)
    (undisplaced : ∀ fd count, action = .readCall fd count →
      Undisplaced contents history fd) :
    ∃ table moved, Sought contents next (history ++ newCalls client next) table moved := by
  cases effect with
  | openFailed pathname flags idle =>
      exact ⟨_, sought.return rfl replayed rfl (by simp [idle]) (fun _ => Or.inl) (by simp)⟩
  | openUntracked pathname flags fd idle unused present untracked =>
      exact ⟨_, sought.return rfl replayed rfl (by simp [idle]) (fun _ => Or.inl) (by simp)⟩
  | openTracked pathname flags fd path address cache idle unused present tracked routed =>
      refine ⟨table, moved, sought.keep rfl ?_ (by simp)⟩
      refine fun _ => ⟨by simp [idle], ?_⟩
      intro other missing
      rw [OrderedMap.getElem?_insert_ite] at missing
      split at missing
      · simp at missing
      · exact missing
  | readUntracked fd count idle untracked =>
      refine ⟨_, sought.return rfl replayed rfl (by simp [idle]) (fun _ => Or.inl) ?_⟩
      intro other otherCount result same
      simp only [Event.read.injEq] at same
      exact sought.untracked (by simp [idle]) other (same.1 ▸ untracked)
  | readTracked fd count path address cache idle tracked routed =>
      refine ⟨table, moved, sought.keep rfl ?_ ?_⟩
      · exact fun _ => ⟨by simp [idle], fun _ missing => missing⟩
      · intro other otherCount same
        simp only [ClientPc.readBlock.injEq] at same
        exact same.1 ▸ sought.undisplaced_eq (undisplaced fd count rfl)
  | preadUntracked fd count offset idle untracked =>
      exact ⟨_, sought.return rfl replayed rfl (by simp [idle]) (fun _ => Or.inl) (by simp)⟩
  | preadLocal fd count offset path idle tracked unredirected =>
      exact ⟨_, sought.return rfl replayed rfl (by simp [idle]) (fun _ => Or.inl) (by simp)⟩
  | preadTracked fd count offset path address cache idle tracked redirected routed =>
      refine ⟨table, moved, sought.keep rfl ?_ (by simp)⟩
      exact fun _ => ⟨by simp [idle], fun _ missing => missing⟩
  | closeUntracked fd idle untracked =>
      exact ⟨_, sought.return rfl replayed rfl (by simp [idle]) (fun _ => Or.inl) (by simp)⟩
  | closeTracked fd path address cache idle tracked routed =>
      refine ⟨_, sought.return rfl replayed rfl (by simp [idle]) ?_ (by simp)⟩
      intro other missing
      simp only [realClose, Client.finish, OrderedMap.getElem?_erase_ite] at missing
      split at missing
      · rename_i same
        exact Or.inr ⟨_, by rw [same]⟩
      · exact Or.inl missing
  | aborted action path idle unrouted =>
      exact ⟨table, moved, sought.keep rfl (fun alive => absurd rfl alive)
        (by simp [Client.abort])⟩
  | wakeOpen file mode fd ready blocked =>
      exact ⟨_, sought.return rfl replayed rfl (by simp [blocked]) (fun _ => Or.inl) (by simp)⟩
  | wakeRead fd count ready blocked returned =>
      refine ⟨_, sought.return rfl replayed rfl (by simp [blocked]) (fun _ => Or.inl) ?_⟩
      intro other otherCount result same
      simp only [Event.read.injEq] at same
      exact same.1 ▸ sought.reading fd count blocked
  | wakeReadLocal fd count ready blocked failed =>
      refine ⟨_, sought.return rfl replayed rfl (by simp [blocked]) (fun _ => Or.inl) ?_⟩
      intro other otherCount result same
      simp only [Event.read.injEq] at same
      exact same.1 ▸ sought.reading fd count blocked
  | wakePread fd count offset ready blocked returned =>
      exact ⟨_, sought.return rfl replayed rfl (by simp [blocked]) (fun _ => Or.inl) (by simp)⟩
  | wakePreadLocal fd count offset ready blocked failed =>
      exact ⟨_, sought.return rfl replayed rfl (by simp [blocked]) (fun _ => Or.inl) (by simp)⟩

theorem Sought.lseek (sought : Sought contents client history table moved)
    (idle : client.pc = .idle) {fd : Int} (tracked : (client.fdMap[fd]?).isSome) (offset : Int)
    (whence : Whence) :
    ∃ table moved, Sought contents (lseekCall contents client fd offset whence).2
      (history ++ [.lseek fd offset whence (lseekCall contents client fd offset whence).1])
      table moved := by
  refine ⟨table, (Posix.lseek contents moved fd offset whence).2, ?_, sought.plain, ?_, ?_, ?_, ?_⟩
  · rw [List.filter_append, sought.calls]
    simp [SeekEvent.isCall, lseekCall]
  · exact (run_concat ∅ history _ _).mpr ⟨moved, sought.sought, rfl⟩
  · intro other
    exact (sought.sameFiles other).trans (lseek_sameFiles contents moved fd offset whence other)
  · intro alive other missing
    have different : other ≠ fd := by
      intro same
      subst other
      simp only [lseekCall] at missing
      simp [missing] at tracked
    rw [lseek_other different]
    exact sought.untracked alive other missing
  · intro other count reading
    simp [lseekCall, idle] at reading

end

section
variable {env : Nat → ClientEnv} {contents : String → Option Bytes} {cluster : Cluster}
  {client : Nat}

theorem Transparent.setKernel (trans : Transparent env contents cluster)
    (idle : (cluster.clients client).pc = .idle) {kernel : Table}
    (sameFiles : SameFiles (cluster.clients client).kernel kernel)
    (untracked : ∀ fd : Int, (cluster.clients client).fdMap[fd]? = none →
      kernel[fd]? = (cluster.clients client).kernel[fd]?) :
    Transparent env contents
      (cluster.setClient client { cluster.clients client with kernel }) := by
  have noCall := trans.agreement.noCall (Or.inl idle)
  refine ⟨?_, ?_, ?_⟩
  · refine trans.agreement.client none ?_ noCall (fun _ _ _ tracked redirected =>
      Or.inl ⟨tracked, redirected⟩) (by simp)
    refine (trans.agreement.clients client).of_same (by simp [Client.awaiting, idle])
      (trans.agreement.clients client).cache rfl rfl ?_
    intro fd path _ descriptor found
    exact sameFiles.found found
  · intro site address handle remote found
    rw [transit_setClient] at found
    exact trans.unread site address handle remote found
  · intro other
    obtain ⟨table, shown, mirror⟩ := trans.mirrors other
    by_cases same : other = client
    · subst other
      have mirrored : Mirror env contents
          ((cluster.setClient client { cluster.clients client with kernel }).post none) client
          table table := by
        refine Mirror.returned noCall (by simp) mirror.replayed (Or.inl idle) ?_ ?_ ?_
        · intro alive fd missing
          exact (mirror.untracked alive fd missing).trans (untracked fd missing).symm
        · intro fd path tracked
          exact mirror.idle_tracked idle tracked
        · intro fd address remote held
          rw [← mirror.idle_positions idle]
          exact mirror.positions fd address remote held
      exact ⟨table, table, mirrored⟩
    · refine ⟨table, shown, mirror.frame (clients_setClient_other _ same) ?_ ?_⟩
      · intro site message found _
        rw [transit_setClient] at found
        exact ⟨site, found⟩
      · exact fun _ _ _ _ _ opened => opened

/-! Whole runs. -/

structure SeekInv (env : Nat → ClientEnv) (contents : String → Option Bytes)
    (system : SeekSystem) : Prop where
  transparent : Transparent env contents system.cluster
  sought : ∀ client, ∃ table moved,
    Sought contents (system.cluster.clients client) (system.history client) table moved

theorem seekInv_initial : SeekInv env contents SeekSystem.initial :=
  ⟨transparent_initial, fun _ => ⟨∅, ∅, sought_initial⟩⟩

theorem SeeksCancel.servable {system : SeekSystem} {action : ClusterAction}
    (cancel : SeeksCancel contents system (.act action)) : Servable system.cluster action := by
  unfold SeeksCancel at cancel
  split at cancel
  · rename_i same
    simp only [SeekAction.act.injEq] at same
    subst action
    exact cancel.1
  · rename_i same
    simp only [SeekAction.act.injEq] at same
    exact same ▸ cancel
  · rename_i same
    simp at same

theorem SeekInv.act {system : SeekSystem} {action : ClusterAction} {cluster : Cluster}
    (inv : SeekInv env contents system)
    (effect : ClusterEffect env contents system.cluster action cluster)
    (cancel : SeeksCancel contents system (.act action)) :
    SeekInv env contents {
      cluster
      history := fun client => system.history client ++
        newCalls (system.cluster.clients client) (cluster.clients client) } := by
  have trans := effect.transparent cancel.servable inv.transparent
  refine ⟨trans, ?_⟩
  intro client
  obtain ⟨table, moved, sought⟩ := inv.sought client
  obtain ⟨after, shown, mirror⟩ := trans.mirrors client
  have replayed := mirror.replayed
  have quiet : cluster.clients client = system.cluster.clients client →
      ∃ table moved, Sought contents (cluster.clients client) (system.history client ++
        newCalls (system.cluster.clients client) (cluster.clients client)) table moved := by
    intro same
    rw [same]
    exact ⟨table, moved, sought.of_same rfl rfl rfl⟩
  simp only
  cases effect with
  | called caller action state outgoing effect =>
      by_cases same : client = caller
      · subst client
        rw [clients_post, clients_setClient_same] at replayed ⊢
        refine effect.sought sought replayed ?_
        intro fd count called
        subst action
        exact cancel.2
      · exact quiet (by rw [clients_post, clients_setClient_other state same])
  | accepted id address request state found effect => exact quiet rfl
  | served address action state response serving effect => exact quiet (by rw [clients_post]; rfl)
  | answered id address response state found received =>
      by_cases same : client = response.client
      · subst client
        rw [clients_setClient_same]
        obtain ⟨samePc, sameTrace, sameMap, _⟩ := receive_frame received
        exact ⟨table, moved, sought.of_same sameTrace sameMap samePc⟩
      · exact quiet (clients_setClient_other state same)

theorem SeekInv.lseek {system : SeekSystem} {fd : Int}
    (inv : SeekInv env contents system) (idle : (system.cluster.clients client).pc = .idle)
    (tracked : ((system.cluster.clients client).fdMap[fd]?).isSome) (offset : Int)
    (whence : Whence) :
    SeekInv env contents {
      cluster := system.cluster.setClient client
        (lseekCall contents (system.cluster.clients client) fd offset whence).2
      history := Function.update system.history client (system.history client ++
        [.lseek fd offset whence
          (lseekCall contents (system.cluster.clients client) fd offset whence).1]) } := by
  refine ⟨inv.transparent.setKernel idle (lseek_sameFiles contents _ fd offset whence) ?_, ?_⟩
  · intro other missing
    refine lseek_other ?_ offset whence
    intro same
    subst other
    simp [missing] at tracked
  · intro other
    obtain ⟨table, moved, sought⟩ := inv.sought other
    by_cases same : other = client
    · subst other
      simp only [clients_setClient_same, Function.update_self]
      exact sought.lseek idle tracked offset whence
    · simp only [clients_setClient_other _ same, Function.update_of_ne same]
      exact ⟨table, moved, sought⟩

theorem SeekInv.step {system after : SeekSystem} {action : SeekAction}
    (inv : SeekInv env contents system) (cancel : SeeksCancel contents system action)
    (stepped : seekStep env contents system action = some after) :
    SeekInv env contents after := by
  cases action with
  | act action =>
      simp only [seekStep, Option.map_eq_some_iff] at stepped
      obtain ⟨cluster, acted, same⟩ := stepped
      exact same ▸ inv.act (clusterStep_effect acted) cancel
  | lseek client fd offset whence =>
      simp only [seekStep] at stepped
      split at stepped
      · rename_i granted
        simp only [Option.some.injEq] at stepped
        exact stepped ▸ inv.lseek granted.1 granted.2 offset whence
      · simp at stepped

end

/-- Seek and read consistency: the calls of every client, seeks included, are a history of
plain calls whenever each read starts where its preceding seeks have had no net effect. -/
theorem seek_read_consistency (env : Nat → ClientEnv) (contents : String → Option Bytes)
    (actions : List SeekAction) (system : SeekSystem)
    (cancel : Meets (seekStep env contents) (SeeksCancel contents) SeekSystem.initial actions)
    (ran : run (seekStep env contents) SeekSystem.initial actions = some system) (client : Nat) :
    ∃ table, run (replaySeek contents) ∅ (system.history client) = some table := by
  have inv : SeekInv env contents system :=
    run_invariant_of_meets (fun _ _ _ inv guarded stepped => inv.step guarded stepped)
      seekInv_initial cancel ran
  obtain ⟨_, moved, sought⟩ := inv.sought client
  exact ⟨moved, sought.sought⟩

def openAndRead : List SeekAction := [
  .act (.call 0 (.openCall "/d/f" readOnly 3)), .act (.deliverRequest 0),
  .act (.serve "s0" .redirect), .act (.serve "s0" (.openFile 5)), .act (.deliverResponse 1),
  .act (.call 0 .wake), .act (.call 0 (.readCall 3 1)), .act (.deliverRequest 2),
  .act (.serve "s0" (.readFile false)), .act (.deliverResponse 3), .act (.call 0 .wake)
]

def readNext : List SeekAction := [
  .act (.call 0 (.readCall 3 1)), .act (.deliverRequest 4),
  .act (.serve "s0" (.readFile false)), .act (.deliverResponse 5), .act (.call 0 .wake)
]

def measure : List SeekAction :=
  openAndRead ++ [.lseek 0 3 0 .fromEnd, .lseek 0 3 1 .set] ++ readNext

def rewind : List SeekAction := openAndRead ++ [.lseek 0 3 0 .set] ++ readNext

theorem seek_read_consistency_measure : ∃ system,
    run (seekStep (fun _ => twoServers) oneFile) SeekSystem.initial measure = some system ∧
      system.history 0 = [
        .call (.opened "/d/f" .readOnly 3), .call (.read 3 1 { ret := 1, data := [1] }),
        .lseek 3 0 .fromEnd 3, .lseek 3 1 .set 1,
        .call (.read 3 1 { ret := 1, data := [2] })] ∧
      ∃ table, run (replaySeek oneFile) ∅ (system.history 0) = some table := by
  have reached : (run (seekStep (fun _ => twoServers) oneFile) SeekSystem.initial measure).map
      (fun system => system.history 0) = some [
        .call (.opened "/d/f" .readOnly 3), .call (.read 3 1 { ret := 1, data := [1] }),
        .lseek 3 0 .fromEnd 3, .lseek 3 1 .set 1,
        .call (.read 3 1 { ret := 1, data := [2] })] := by decide
  obtain ⟨system, ran, called⟩ := Option.map_eq_some_iff.mp reached
  exact ⟨system, ran, called,
    seek_read_consistency (fun _ => twoServers) oneFile measure system (by decide) ran 0⟩

theorem rewind_reads_on : ¬ ∀ (env : Nat → ClientEnv) (contents : String → Option Bytes)
    (actions : List SeekAction) (system : SeekSystem),
    Meets (seekStep env contents)
      (fun system action => ∀ act, action = .act act → Servable system.cluster act)
      SeekSystem.initial actions →
    run (seekStep env contents) SeekSystem.initial actions = some system →
    ∀ client, ∃ table, run (replaySeek contents) ∅ (system.history client) = some table := by
  intro consistent
  have reached : (run (seekStep (fun _ => twoServers) oneFile) SeekSystem.initial rewind).map
      (fun system => system.history 0) = some [
        .call (.opened "/d/f" .readOnly 3), .call (.read 3 1 { ret := 1, data := [1] }),
        .lseek 3 0 .set 0, .call (.read 3 1 { ret := 1, data := [2] })] := by decide
  obtain ⟨system, ran, called⟩ := Option.map_eq_some_iff.mp reached
  have served : ∀ action ∈ rewind, ∀ system : SeekSystem,
      ∀ act, action = .act act → Servable system.cluster act := by
    simp [rewind, openAndRead, readNext, Servable]
  obtain ⟨table, replayed⟩ :=
    consistent _ oneFile rewind system (meets_of_forall served SeekSystem.initial) ran 0
  rw [called] at replayed
  have refused : run (replaySeek oneFile) ∅ [
      .call (.opened "/d/f" .readOnly 3), .call (.read 3 1 { ret := 1, data := [1] }),
      .lseek 3 0 .set 0, .call (.read 3 1 { ret := 1, data := [2] })] = none := by decide
  rw [refused] at replayed
  simp at replayed

end HvacCache
