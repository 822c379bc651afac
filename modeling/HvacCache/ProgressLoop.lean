import HvacCache.Redirection
import HvacCache.Library.EventLoop

/-! The progress thread of a server. The loop of `hvac_progress_fn` takes what has completed from
Mercury, one at a time: `HG_Trigger` runs a handler or a callback, and `HG_Progress` lets requests
and bulk transfers complete. The response to a read is sent by the callback of its transfer, and
other requests may be handled before that. -/

namespace HvacCache

open EventLoop Posix Transition

/-- `bulkTransfer` carries what its callback is going to send. -/
inductive ServerOperation
  | request (request : Request)
  | bulkTransfer (response : Response)
deriving DecidableEq, Repr

/-- `sent` lists the calls of `HG_Respond`. -/
structure RunningServer where
  server : Server
  loop : Loop ServerOperation
  sent : List Response

def RunningServer.initial : RunningServer := {
  server := .initial
  loop := .initial
  sent := []
}

inductive RunningAction
  | arrive (request : Request)
  | test
  | trigger
  | finish
  | complete (index : Nat)
  | progressed
  | act (action : ServerAction)
deriving DecidableEq, Repr

def ServerAction.byMover : ServerAction → Bool
  | .moverLock => true
  | .moverWait => true
  | .moverWake => true
  | .moverDrain => true
  | .moverRest => true
  | .moverMakeDir _ _ => true
  | .moverCreate => true
  | .moverWrite _ => true
  | .moverCopied => true
  | .moverThrow => true
  | .moverPop => true
  | _ => false

/-- The open handler responds itself, the read handler starts a bulk transfer. -/
def RunningServer.reply (running : RunningServer) : Option Response → RunningServer
  | none => running
  | some (.openOut handle retStatus) =>
      { running with sent := running.sent ++ [.openOut handle retStatus] }
  | some (.rpcOut handle ret pushed) =>
      { running with loop := running.loop.post (.bulkTransfer (.rpcOut handle ret pushed)) }

def triggerStep (contents : String → Option Bytes) (running : RunningServer) :
    Option RunningServer :=
  match running.loop.trigger, running.loop.queue with
  | none, _ => none
  | some loop, [] => some { running with loop }
  | some loop, .request request :: _ =>
      (serverStep contents running.server (.accept request)).map fun server =>
        { running with server, loop }
  | some loop, .bulkTransfer response :: _ =>
      some { running with loop, sent := running.sent ++ [response] }

def actStep (contents : String → Option Bytes) (running : RunningServer) (action : ServerAction) :
    Option RunningServer :=
  if action.byMover = true ∨ running.loop.pc = .running ∧ action.request? = none then
    match serverAct contents running.server action with
    | none => none
    | some (server, response) => some (RunningServer.reply { running with server } response)
  else none

def finishStep (running : RunningServer) : Option RunningServer :=
  if running.server.handler = .idle then
    running.loop.finish.map fun loop => { running with loop }
  else none

/-- An assertion that fails in a handler ends the process. -/
def runningStep (contents : String → Option Bytes) (running : RunningServer)
    (action : RunningAction) : Option RunningServer :=
  if running.server.handler = .aborted then none
  else
    match action with
    | .arrive request => some { running with loop := running.loop.post (.request request) }
    | .test => running.loop.test.map fun loop => { running with loop }
    | .trigger => triggerStep contents running
    | .finish => finishStep running
    | .complete index => (running.loop.complete index).map fun loop => { running with loop }
    | .progressed => running.loop.progressed.map fun loop => { running with loop }
    | .act action => actStep contents running action

def RunningAction.request? : RunningAction → Option Request
  | .arrive request => some request
  | _ => none

def RunningAction.loopAction? : RunningAction → Option (LoopAction ServerOperation)
  | .test => some .test
  | .trigger => some .trigger
  | .finish => some .finish
  | .complete index => some (.complete index)
  | .progressed => some .progressed
  | _ => none

inductive RunningEffect (contents : String → Option Bytes) (running : RunningServer) :
    RunningAction → RunningServer → Prop
  | arrived (request : Request) :
      RunningEffect contents running (.arrive request)
        { running with loop := running.loop.post (.request request) }
  | looped (action : RunningAction) (loopAction : LoopAction ServerOperation)
      (loop : Loop ServerOperation) (taken : action.loopAction? = some loopAction)
      (stepped : loopStep running.loop loopAction = some loop)
      (same : loop.started = running.loop.started)
      (asked : loopAction = .finish → running.server.handler = .idle) :
      RunningEffect contents running action { running with loop }
  | accepted (request : Request) (rest : List ServerOperation) (loop : Loop ServerOperation)
      (server : Server) (front : running.loop.queue = .request request :: rest)
      (triggered : loopStep running.loop .trigger = some loop)
      (entered : serverStep contents running.server (.accept request) = some server) :
      RunningEffect contents running .trigger { running with server, loop }
  | responded (response : Response) (rest : List ServerOperation) (loop : Loop ServerOperation)
      (front : running.loop.queue = .bulkTransfer response :: rest)
      (triggered : loopStep running.loop .trigger = some loop) :
      RunningEffect contents running .trigger
        { running with loop, sent := running.sent ++ [response] }
  | acted (action : ServerAction) (server : Server) (response : Option Response)
      (entitled : action.byMover = true ∨ running.loop.pc = .running)
      (own : action.request? = none)
      (stepped : serverAct contents running.server action = some (server, response)) :
      RunningEffect contents running (.act action)
        (RunningServer.reply { running with server } response)

section
variable {contents : String → Option Bytes} {running next final : RunningServer}
  {action : RunningAction} {actions : List RunningAction} {serverActions : List ServerAction}

theorem loopAction_quiet {loopAction : LoopAction ServerOperation}
    (taken : action.loopAction? = some loopAction) :
    action.request? = none ∧ loopAction.posted = [] ∧ loopAction ≠ .stop := by
  cases action <;> simp only [RunningAction.loopAction?, Option.some.injEq, reduceCtorEq] at taken <;>
    subst taken <;> simp [RunningAction.request?, LoopAction.posted]

theorem byMover_request {action : ServerAction} (mover : action.byMover = true) :
    action.request? = none := by
  cases action <;> first | rfl | simp [ServerAction.byMover] at mover

theorem triggerStep_effect (stepped : triggerStep contents running = some next) :
    RunningEffect contents running .trigger next := by
  unfold triggerStep at stepped
  split at stepped
  · simp at stepped
  · rename_i loop triggered empty
    simp only [Option.some.injEq] at stepped
    have moved : loopStep running.loop .trigger = some loop := triggered
    exact stepped ▸ .looped .trigger .trigger loop rfl moved
      ((loopStep_effect moved).started_eq (Or.inr empty)) (by simp)
  · rename_i loop request rest triggered front
    obtain ⟨server, entered, same⟩ := Option.map_eq_some_iff.mp stepped
    exact same ▸ .accepted request rest loop server front triggered entered
  · rename_i loop response rest triggered front
    simp only [Option.some.injEq] at stepped
    exact stepped ▸ .responded response rest loop front triggered

theorem actStep_effect {action : ServerAction}
    (stepped : actStep contents running action = some next) :
    RunningEffect contents running (.act action) next := by
  unfold actStep at stepped
  split at stepped
  · rename_i entitled
    split at stepped
    · simp at stepped
    · rename_i server response acted
      simp only [Option.some.injEq] at stepped
      refine stepped ▸ .acted action server response (entitled.imp_right And.left) ?_ acted
      exact entitled.elim byMover_request And.right
  · simp at stepped

theorem looped_effect (loopAction : LoopAction ServerOperation)
    (taken : action.loopAction? = some loopAction) (other : loopAction ≠ .trigger)
    (asked : loopAction = .finish → running.server.handler = .idle)
    (stepped : (loopStep running.loop loopAction).map (fun loop => { running with loop }) =
      some next) : RunningEffect contents running action next := by
  obtain ⟨loop, moved, same⟩ := Option.map_eq_some_iff.mp stepped
  exact same ▸ .looped action loopAction loop taken moved
    ((loopStep_effect moved).started_eq (Or.inl other)) asked

theorem runningStep_effect (stepped : runningStep contents running action = some next) :
    running.server.handler ≠ .aborted ∧ RunningEffect contents running action next := by
  unfold runningStep at stepped
  split at stepped
  · simp at stepped
  · rename_i alive
    refine ⟨alive, ?_⟩
    cases action with
    | arrive request =>
        simp only [Option.some.injEq] at stepped
        exact stepped ▸ .arrived request
    | test => exact looped_effect .test rfl (by simp) (by simp) stepped
    | trigger => exact triggerStep_effect stepped
    | finish =>
        simp only [finishStep] at stepped
        split at stepped
        · rename_i idle
          exact looped_effect .finish rfl (by simp) (fun _ => idle) stepped
        · simp at stepped
    | complete index =>
        exact looped_effect (.complete index) rfl (by simp) (by simp) stepped
    | progressed =>
        exact looped_effect .progressed rfl (by simp) (by simp) stepped
    | act action => exact actStep_effect stepped

/-! What the loop makes of the server. -/

def ServerOperation.request? : ServerOperation → Option Request
  | .request asked => some asked
  | .bulkTransfer _ => none

def ServerOperation.response? : ServerOperation → Option Response
  | .request _ => none
  | .bulkTransfer response => some response

def responses (contents : String → Option Bytes) : Server → List ServerAction → List Response
  | _, [] => []
  | server, action :: rest =>
      match serverAct contents server action with
      | none => []
      | some (next, response) => response.toList ++ responses contents next rest

def RunningServer.unsent (running : RunningServer) : List Response :=
  (running.loop.queue ++ running.loop.inFlight).filterMap ServerOperation.response?

theorem serverStep_of_act {server after : Server} {action : ServerAction}
    {response : Option Response} (acted : serverAct contents server action = some (after, response)) :
    serverStep contents server action = some after := by
  rw [serverStep, acted]
  rfl

theorem responses_concat {start server after : Server} {action : ServerAction}
    {response : Option Response}
    (ran : run (serverStep contents) start serverActions = some server)
    (acted : serverAct contents server action = some (after, response)) :
    responses contents start (serverActions ++ [action]) =
      responses contents start serverActions ++ response.toList := by
  induction serverActions generalizing start with
  | nil =>
      simp only [run, Option.some.injEq] at ran
      subst start
      simp [responses, acted]
  | cons first rest ih =>
      obtain ⟨middle, stepped, reached⟩ := (run_cons start first rest server).mp ran
      obtain ⟨⟨again, answer⟩, firstActed, same⟩ := Option.map_eq_some_iff.mp stepped
      simp only at same
      subst again
      simp only [List.cons_append, responses, firstActed, ih reached, List.append_assoc]

/-- The server has gone through `serverActions`, with the requests that the loop has taken. -/
structure Follows (contents : String → Option Bytes) (running : RunningServer)
    (serverActions : List ServerAction) : Prop where
  ran : run (serverStep contents) Server.initial serverActions = some running.server
  accepted : serverActions.filterMap ServerAction.request? =
    running.loop.started.filterMap ServerOperation.request?
  answered : (responses contents Server.initial serverActions).Perm
    (running.sent ++ running.unsent)

theorem pending_perm {loop : Loop ServerOperation} {loopAction : LoopAction ServerOperation}
    (taken : action.loopAction? = some loopAction)
    (stepped : loopStep running.loop loopAction = some loop)
    (same : loop.started = running.loop.started) :
    (loop.queue ++ loop.inFlight).Perm (running.loop.queue ++ running.loop.inFlight) := by
  have moved := (loopStep_effect stepped).operations
  rwa [(loopAction_quiet taken).2.1, List.append_nil, Loop.operations, Loop.operations, same,
    List.append_assoc, List.append_assoc, List.perm_append_left_iff] at moved

theorem Follows.step (follows : Follows contents running serverActions)
    (effect : RunningEffect contents running action next) :
    ∃ more, Follows contents next (serverActions ++ more) := by
  cases effect with
  | arrived request =>
      refine ⟨[], ?_, ?_, ?_⟩
      · simpa using follows.ran
      · simpa using follows.accepted
      · simpa [RunningServer.unsent, List.filterMap_cons, ServerOperation.response?] using
          follows.answered
  | looped action loopAction loop taken stepped same asked =>
      refine ⟨[], ?_, ?_, ?_⟩
      · simpa using follows.ran
      · simpa [same] using follows.accepted
      · rw [List.append_nil]
        exact follows.answered.trans
          (((pending_perm taken stepped same).filterMap _).symm.append_left _)
  | accepted request rest loop server front triggered entered =>
      obtain ⟨queue, inFlight, started⟩ := triggered_front front triggered
      obtain ⟨⟨after, response⟩, acted, same⟩ := Option.map_eq_some_iff.mp entered
      obtain ⟨_, silent⟩ := silent_eq_some.mp (serverAct_eq_some.mp acted).2
      subst server response
      refine ⟨[.accept request], ?_, ?_, ?_⟩
      · exact (run_concat _ _ _ _).mpr ⟨running.server, follows.ran, entered⟩
      · rw [List.filterMap_append, follows.accepted, started, List.filterMap_append]
        rfl
      · rw [responses_concat follows.ran acted]
        have kept := follows.answered
        simp only [RunningServer.unsent, front, List.cons_append, List.filterMap_cons,
          ServerOperation.response?] at kept
        simpa [RunningServer.unsent, queue, inFlight] using kept
  | responded response rest loop front triggered =>
      obtain ⟨queue, inFlight, started⟩ := triggered_front front triggered
      refine ⟨[], ?_, ?_, ?_⟩
      · simpa using follows.ran
      · simpa [started, List.filterMap_cons, ServerOperation.request?] using follows.accepted
      · have kept := follows.answered
        simp only [RunningServer.unsent, front, List.cons_append, List.filterMap_cons,
          ServerOperation.response?] at kept
        simpa [RunningServer.unsent, queue, inFlight] using kept
  | acted action server response entitled own stepped =>
      refine ⟨[action], ?_, ?_, ?_⟩
      · have moved := serverStep_of_act stepped
        have reached := (run_concat _ _ _ _).mpr ⟨running.server, follows.ran, moved⟩
        cases response with
        | none => exact reached
        | some response => cases response <;> exact reached
      · have kept := follows.accepted
        cases response with
        | none => simpa [RunningServer.reply, own] using kept
        | some response => cases response <;> simpa [RunningServer.reply, Loop.post, own] using kept
      · rw [responses_concat follows.ran stepped]
        have kept := follows.answered
        cases response with
        | none => simpa [RunningServer.reply, RunningServer.unsent] using kept
        | some response =>
            cases response with
            | openOut handle retStatus =>
                refine (kept.append_right [Response.openOut handle retStatus]).trans ?_
                simp only [RunningServer.reply, List.append_assoc]
                exact List.perm_append_comm.append_left running.sent
            | rpcOut handle ret pushed =>
                have joined := kept.append_right [Response.rpcOut handle ret pushed]
                simpa [RunningServer.reply, RunningServer.unsent,
                  ServerOperation.response?] using joined

theorem run_follows (ran : run (runningStep contents) RunningServer.initial actions = some running) :
    ∃ serverActions, Follows contents running serverActions := by
  have preserved : ∀ before action after, (∃ serverActions, Follows contents before serverActions) →
      runningStep contents before action = some after →
      ∃ serverActions, Follows contents after serverActions := by
    rintro before action after ⟨serverActions, follows⟩ stepped
    obtain ⟨more, further⟩ := follows.step (runningStep_effect stepped).2
    exact ⟨serverActions ++ more, further⟩
  have initial : Follows contents RunningServer.initial [] := ⟨rfl, rfl, List.Perm.refl _⟩
  exact run_invariant preserved ⟨[], initial⟩ ran

def RunningServer.requests (running : RunningServer) : List Request :=
  running.loop.operations.filterMap ServerOperation.request?

theorem RunningEffect.requests (effect : RunningEffect contents running action next) :
    next.requests.Perm (running.requests ++ action.request?.toList) := by
  cases effect with
  | arrived request =>
      simp [RunningServer.requests, RunningAction.request?, Loop.operations,
        ServerOperation.request?]
  | looped action loopAction loop taken stepped same asked =>
      obtain ⟨quiet, nothing, _⟩ := loopAction_quiet taken
      have moved := (loopStep_effect stepped).operations
      rw [nothing] at moved
      rw [quiet]
      simpa [RunningServer.requests] using moved.filterMap ServerOperation.request?
  | accepted request rest loop server front triggered entered =>
      have moved := (loopStep_effect triggered).operations
      simpa [RunningServer.requests, RunningAction.request?, LoopAction.posted] using
        moved.filterMap ServerOperation.request?
  | responded response rest loop front triggered =>
      have moved := (loopStep_effect triggered).operations
      simpa [RunningServer.requests, RunningAction.request?, LoopAction.posted] using
        moved.filterMap ServerOperation.request?
  | acted action server response entitled own stepped =>
      cases response with
      | none => simp [RunningServer.reply, RunningServer.requests, RunningAction.request?]
      | some response =>
          cases response <;>
            simp [RunningServer.reply, RunningServer.requests, RunningAction.request?,
              Loop.operations, List.filterMap_cons, ServerOperation.request?]

theorem RunningEffect.ordered (effect : RunningEffect contents running action next) :
    running.loop.started ++ running.loop.queue <+: next.loop.started ++ next.loop.queue := by
  cases effect with
  | arrived request => exact List.prefix_rfl
  | looped action loopAction loop taken stepped same asked =>
      exact (loopStep_effect stepped).ordered
  | accepted request rest loop server front triggered entered =>
      exact (loopStep_effect triggered).ordered
  | responded response rest loop front triggered => exact (loopStep_effect triggered).ordered
  | acted action server response entitled own stepped =>
      cases response with
      | none => exact List.prefix_rfl
      | some response => cases response <;> exact List.prefix_rfl

theorem run_requests (ran : run (runningStep contents) RunningServer.initial actions = some running) :
    running.requests.Perm (actions.filterMap RunningAction.request?) := by
  let Kept (earlier : List RunningAction) (state : RunningServer) : Prop :=
    state.requests.Perm (earlier.filterMap RunningAction.request?)
  have preserved : ∀ earlier state action after, Kept earlier state →
      runningStep contents state action = some after → Kept (earlier ++ [action]) after := by
    intro earlier state action after kept stepped
    refine (runningStep_effect stepped).2.requests.trans ?_
    rw [List.filterMap_append]
    refine (kept.append_right _).trans ?_
    cases asked : action.request? <;> simp [asked]
  exact run_history preserved (List.Perm.refl _) ran

theorem run_ordered (ran : run (runningStep contents) running actions = some final) :
    running.loop.started ++ running.loop.queue <+: final.loop.started ++ final.loop.queue := by
  let Grown (state : RunningServer) : Prop :=
    running.loop.started ++ running.loop.queue <+: state.loop.started ++ state.loop.queue
  have preserved : ∀ state action after, Grown state →
      runningStep contents state action = some after → Grown after :=
    fun state action after grown stepped => grown.trans (runningStep_effect stepped).2.ordered
  exact run_invariant preserved List.prefix_rfl ran

/-! A handler runs only while the progress thread is in a callback. -/

structure LoopInv (running : RunningServer) : Prop where
  idle : running.loop.pc ≠ .running → running.server.handler = .idle
  flag : running.loop.stopping = false
  notEnded : running.loop.pc ≠ .ended

theorem ServerEffect.handler_of_mover {server after : Server} {action : ServerAction}
    {response : Option Response} (effect : ServerEffect contents server action after response)
    (mover : action.byMover = true) : after.handler = server.handler := by
  cases effect <;> first | rfl | simp [ServerAction.byMover] at mover

theorem LoopInv.looped {loop : Loop ServerOperation} {loopAction : LoopAction ServerOperation}
    (inv : LoopInv running) (stepped : loopStep running.loop loopAction = some loop)
    (other : loopAction ≠ .stop)
    (left : loop.pc ≠ .running → running.server.handler = .idle) :
    LoopInv { running with loop } := by
  refine ⟨left, ?_, ?_⟩
  · cases loopStep_effect stepped with
    | stopped => exact absurd rfl other
    | _ => exact inv.flag
  · cases loopStep_effect stepped with
    | posted | stopped | completed => exact inv.notEnded
    | testedTop top => simp [inv.flag]
    | testedRan ran tested => cases ran <;> simp [inv.flag]
    | testedIdle idle => simp [inv.flag]
    | _ => simp

theorem RunningEffect.loopInv (effect : RunningEffect contents running action next)
    (inv : LoopInv running) : LoopInv next := by
  cases effect with
  | arrived request => exact ⟨inv.idle, inv.flag, inv.notEnded⟩
  | looped action loopAction loop taken stepped same asked =>
      refine inv.looped stepped (loopAction_quiet taken).2.2 fun left => ?_
      by_cases inside : running.loop.pc = .running
      · cases loopStep_effect stepped with
        | posted | stopped => exact absurd inside left
        | finished _ => exact asked rfl
        | testedTop other => simp [inside] at other
        | testedRan _ other => simp [inside] at other
        | testedIdle other => simp [inside] at other
        | foundNone other _ => simp [inside] at other
        | started _ _ other _ => simp [inside] at other
        | completed _ _ other _ => simp [inside] at other
        | progressed other => simp [inside] at other
      · exact inv.idle inside
  | accepted request rest loop server front triggered entered =>
      cases loopStep_effect triggered with
      | foundNone triggering empty => simp [front] at empty
      | started operation others triggering same => exact ⟨by simp, inv.flag, by simp⟩
  | responded response rest loop front triggered =>
      cases loopStep_effect triggered with
      | foundNone triggering empty => simp [front] at empty
      | started operation others triggering same => exact ⟨by simp, inv.flag, by simp⟩
  | acted action server response entitled own stepped =>
      have kept : LoopInv { running with server } := by
        refine ⟨?_, inv.flag, inv.notEnded⟩
        intro outside
        have mover := entitled.resolve_right outside
        exact ((serverAct_effect stepped).handler_of_mover mover).trans (inv.idle outside)
      cases response with
      | none => exact kept
      | some response => cases response <;> exact ⟨kept.idle, kept.flag, kept.notEnded⟩

theorem run_loopInv (ran : run (runningStep contents) RunningServer.initial actions = some running) :
    LoopInv running := by
  have initial : LoopInv RunningServer.initial := by
    refine ⟨fun _ => rfl, rfl, ?_⟩
    simp [RunningServer.initial, Loop.initial]
  exact run_invariant (fun _ _ _ inv stepped => (runningStep_effect stepped).2.loopInv inv) initial
    ran

end

/-! Whatever the order in which operations complete, the server goes through a run of its own. -/

/-- The handlers take each request that arrives at most once, in the order of the queue, and each
of their responses is sent once, or still waits for its bulk transfer. -/
theorem progress_loop_refines_server (contents : String → Option Bytes)
    (actions : List RunningAction) (running : RunningServer)
    (ran : run (runningStep contents) RunningServer.initial actions = some running) :
    (∃ serverActions,
      run (serverStep contents) Server.initial serverActions = some running.server ∧
      serverActions.filterMap ServerAction.request? =
        running.loop.started.filterMap ServerOperation.request? ∧
      (responses contents Server.initial serverActions).Perm (running.sent ++ running.unsent)) ∧
    running.requests.Perm (actions.filterMap RunningAction.request?) ∧
    ∀ before after middle, actions = before ++ after →
      run (runningStep contents) RunningServer.initial before = some middle →
      middle.loop.started ++ middle.loop.queue <+: running.loop.started ++ running.loop.queue := by
  refine ⟨?_, run_requests ran, ?_⟩
  · obtain ⟨serverActions, follows⟩ := run_follows ran
    exact ⟨serverActions, follows.ran, follows.accepted, follows.answered⟩
  · intro before after middle parted reached
    subst actions
    obtain ⟨again, same, further⟩ := (run_append _ before after running).mp ran
    rw [reached, Option.some.injEq] at same
    subst again
    exact run_ordered further

def nextOperation : List RunningAction :=
  [.test, .trigger, .test, .test, .complete 0, .progressed, .test, .trigger]

def overtakenRead : List RunningAction :=
  [.arrive (.openRpc { client := 0, callback := .openCb 3 } "/d/f")] ++ nextOperation ++
  [.act .redirect, .act (.openFile 5), .finish, .test, .trigger, .test, .test,
    .arrive (.readRpc { client := 0, callback := .readCb } 8 5 0), .complete 0, .progressed,
    .test, .trigger, .arrive (.openRpc { client := 1, callback := .openCb 3 } "/d/f"),
    .act (.readFile false), .finish] ++ nextOperation ++
  [.act .redirect, .act (.openFile 6), .finish] ++ nextOperation ++ [.finish]

theorem progress_loop_refines_server_overtakenRead : ∃ running,
    run (runningStep oneFile) RunningServer.initial overtakenRead = some running ∧
    running.sent = [.openOut { client := 0, callback := .openCb 3 } 5,
      .openOut { client := 1, callback := .openCb 3 } 6,
      .rpcOut { client := 0, callback := .readCb } 3 [1, 2, 3]] ∧
    (∃ serverActions,
      run (serverStep oneFile) Server.initial serverActions = some running.server ∧
      serverActions.filterMap ServerAction.request? =
        running.loop.started.filterMap ServerOperation.request? ∧
      (responses oneFile Server.initial serverActions).Perm (running.sent ++ running.unsent)) ∧
    running.requests.Perm (overtakenRead.filterMap RunningAction.request?) ∧
    ∀ before after middle, overtakenRead = before ++ after →
      run (runningStep oneFile) RunningServer.initial before = some middle →
      middle.loop.started ++ middle.loop.queue <+:
        running.loop.started ++ running.loop.queue := by
  have reached : (run (runningStep oneFile) RunningServer.initial overtakenRead).map
      RunningServer.sent = some [.openOut { client := 0, callback := .openCb 3 } 5,
        .openOut { client := 1, callback := .openCb 3 } 6,
        .rpcOut { client := 0, callback := .readCb } 3 [1, 2, 3]] := by decide
  obtain ⟨running, ran, sent⟩ := Option.map_eq_some_iff.mp reached
  exact ⟨running, ran, sent, progress_loop_refines_server oneFile overtakenRead running ran⟩

end HvacCache
