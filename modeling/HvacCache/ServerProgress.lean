import HvacCache.ServerSettling
import HvacCache.ProgressLoop
import Mathlib.Data.Prod.Lex

/-! The progress thread of a server gets through its work: whatever has arrived is answered, unless
an assertion fails in a handler. -/

namespace HvacCache

open EventLoop Posix Transition

/-! How much there is to do. -/

def OwnProgress (contents : String → Option Bytes) (running : RunningServer) :
    RunningAction → Prop
  | .arrive _ => False
  | .act action => OwnWork contents running.server action
  | _ => True

def ServerOperation.cost : ServerOperation → Nat
  | .request _ => 2
  | .bulkTransfer _ => 1

def HandlerPc.owes : HandlerPc → Nat
  | .readRpc _ _ _ _ => 1
  | _ => 0

def Response.transfers : Response → Nat
  | .openOut _ _ => 0
  | .rpcOut _ _ _ => 1

def RunningServer.work (running : RunningServer) : Nat :=
  ((running.loop.queue ++ running.loop.inFlight).map ServerOperation.cost).sum +
    running.server.handler.owes

def RunningServer.transit (running : RunningServer) : Nat :=
  running.loop.inFlight.length + running.server.handler.owes

def stepsAhead (queued : Bool) : LoopPc → Nat
  | .running => 6
  | .tested true => if queued then 1 else 5
  | .top => if queued then 1 else 5
  | .triggering => if queued then 0 else 4
  | .tested false => if queued then 4 else 3
  | .idle => if queued then 3 else 2
  | .progressing => if queued then 2 else 1
  | .ended => 0

def RunningServer.ahead (contents : String → Option Bytes) (running : RunningServer) : Nat :=
  stepsAhead (!running.loop.queue.isEmpty) running.loop.pc + running.server.budget contents

def RunningServer.rank (contents : String → Option Bytes) (running : RunningServer) :
    Nat ×ₗ Nat ×ₗ Nat :=
  toLex (running.work, toLex (running.transit, running.ahead contents))

/-- Nothing that has arrived is waiting, and all responses are sent. -/
structure RunningServer.Served (running : RunningServer) : Prop where
  queue : running.loop.queue = []
  inFlight : running.loop.inFlight = []
  handler : running.server.handler = .idle

/-- `HG_Progress` does not return before something has completed. -/
def Serving (contents : String → Option Bytes) (running : RunningServer) (action : RunningAction) :
    Prop :=
  OwnProgress contents running action ∧ ¬ running.Served ∧
    (action = .progressed → running.loop.queue ≠ [])

section
variable {contents : String → Option Bytes} {running next final : RunningServer}
  {action : RunningAction} {actions : List RunningAction}

theorem ServerEffect.owes {server after : Server} {action : ServerAction}
    {response : Option Response} (effect : ServerEffect contents server action after response)
    (own : action.request? = none) :
    after.handler.owes + response.elim 0 Response.transfers ≤ server.handler.owes := by
  cases effect with
  | acceptOpen | acceptRead | acceptClose => simp [ServerAction.request?] at own
  | closed fd descriptor closing found =>
      simp only [closing, Option.elim_none, Nat.add_zero]
      split <;> simp [HandlerPc.owes]
  | readDone handle inputVal accessfd offset failure outcome reading allocated result fits =>
      simp [reading, HandlerPc.owes, Response.transfers]
  | _ => simp [*, HandlerPc.owes, Response.transfers]

@[simp] theorem reply_server (running : RunningServer) (response : Option Response) :
    (running.reply response).server = running.server := by
  cases response with
  | none => rfl
  | some response => cases response <;> rfl

@[simp] theorem reply_pc (running : RunningServer) (response : Option Response) :
    (running.reply response).loop.pc = running.loop.pc := by
  cases response with
  | none => rfl
  | some response => cases response <;> rfl

@[simp] theorem reply_queue (running : RunningServer) (response : Option Response) :
    (running.reply response).loop.queue = running.loop.queue := by
  cases response with
  | none => rfl
  | some response => cases response <;> rfl

theorem reply_work (running : RunningServer) (response : Option Response) :
    (running.reply response).work = running.work + response.elim 0 Response.transfers := by
  cases response with
  | none => rfl
  | some response =>
      cases response with
      | openOut handle retStatus => rfl
      | rpcOut handle ret pushed =>
          simp [RunningServer.reply, RunningServer.work, ServerOperation.cost, Response.transfers]
          omega

theorem reply_transit (running : RunningServer) (response : Option Response) :
    (running.reply response).transit = running.transit + response.elim 0 Response.transfers := by
  cases response with
  | none => rfl
  | some response =>
      cases response with
      | openOut handle retStatus => rfl
      | rpcOut handle ret pushed =>
          simp [RunningServer.reply, RunningServer.transit, Response.transfers]
          omega

theorem rank_lt {first second third first' second' third' : Nat} (firstLe : first' ≤ first)
    (secondLe : first' = first → second' ≤ second)
    (thirdLt : first' = first → second' = second → third' < third) :
    toLex (first', toLex (second', third')) < toLex (first, toLex (second, third)) := by
  rw [Prod.Lex.toLex_lt_toLex']
  refine ⟨firstLe, fun same => ?_⟩
  rw [Prod.Lex.toLex_lt_toLex']
  exact ⟨secondLe same, thirdLt same⟩

theorem rank_of_pc {pc : LoopPc} (fewer : stepsAhead (!running.loop.queue.isEmpty) pc <
      stepsAhead (!running.loop.queue.isEmpty) running.loop.pc) :
    RunningServer.rank contents { running with loop := { running.loop with pc } } <
      running.rank contents :=
  rank_lt (Nat.le_refl _) (fun _ => Nat.le_refl _) fun _ _ => Nat.add_lt_add_right fewer _

theorem accepted_owes {server entered : Server} {request : Request}
    (idle : server.handler = .idle)
    (accepted : serverStep contents server (.accept request) = some entered) :
    entered.handler.owes ≤ 1 := by
  cases request <;>
    simp only [serverStep, serverAct, threadAct, silent, acceptRequest, idle, reduceCtorEq,
      if_false, Option.map_some, Option.some.injEq] at accepted <;>
    simp [← accepted, HandlerPc.owes]

theorem looped_rank {loop : Loop ServerOperation} {loopAction : LoopAction ServerOperation}
    (taken : action.loopAction? = some loopAction)
    (stepped : loopStep running.loop loopAction = some loop)
    (same : loop.started = running.loop.started)
    (found : loopAction = .progressed → running.loop.queue ≠ []) (inv : LoopInv running) :
    RunningServer.rank contents { running with loop } < running.rank contents := by
  obtain ⟨_, nothing, other⟩ := loopAction_quiet taken
  have moved := pending_perm taken stepped same
  cases loopStep_effect stepped with
  | posted operation => simp [LoopAction.posted] at nothing
  | stopped => exact absurd rfl other
  | testedTop top =>
      apply rank_of_pc
      simp only [top, inv.flag, Bool.false_eq_true, if_false, stepsAhead]
      split <;> omega
  | testedRan ran tested =>
      apply rank_of_pc
      cases ran <;> simp only [tested, inv.flag, Bool.not_false, Bool.and_true, Bool.false_eq_true,
        if_false, if_true, stepsAhead] <;> split <;> omega
  | testedIdle idle =>
      apply rank_of_pc
      simp only [idle, inv.flag, Bool.false_eq_true, if_false, stepsAhead]
      split <;> omega
  | foundNone triggering empty =>
      apply rank_of_pc
      simp [triggering, empty, stepsAhead]
  | started operation rest triggering front => simp at same
  | finished inside =>
      apply rank_of_pc
      simp only [inside, stepsAhead]
      split <;> omega
  | completed index operation progressing pending =>
      obtain ⟨bound, _⟩ := List.getElem?_eq_some_iff.mp pending
      have fewer := List.length_eraseIdx_of_lt bound
      have transit : RunningServer.transit { running with loop := { running.loop with
          inFlight := running.loop.inFlight.eraseIdx index
          queue := running.loop.queue ++ [operation] } } < running.transit := by
        simp only [RunningServer.transit, fewer]
        omega
      refine rank_lt ?_ (fun _ => transit.le) fun _ equal => absurd equal transit.ne
      exact Nat.add_le_add_right (moved.map ServerOperation.cost).sum_eq.le _
  | progressed progressing =>
      apply rank_of_pc
      simp [progressing, stepsAhead, found rfl]

theorem RunningEffect.rank (effect : RunningEffect contents running action next)
    (inv : LoopInv running) (serving : Serving contents running action) :
    next.rank contents < running.rank contents := by
  obtain ⟨own, _, found⟩ := serving
  cases effect with
  | arrived request => exact absurd own (by simp [OwnProgress])
  | looped action loopAction loop taken stepped same asked =>
      refine looped_rank taken stepped same (fun progressed => found ?_) inv
      subst progressed
      cases action <;> first | rfl | simp [RunningAction.loopAction?] at taken
  | accepted request rest loop server front triggered entered =>
      obtain ⟨queue, inFlight, _⟩ := triggered_front front triggered
      have idle := inv.idle (by rw [triggered_pc triggered]; simp)
      have owes := accepted_owes idle entered
      have less : RunningServer.work { running with server, loop } < running.work := by
        simp only [RunningServer.work, queue, inFlight, front, idle, List.cons_append,
          List.map_cons, List.sum_cons, ServerOperation.cost]
        omega
      exact rank_lt less.le (fun equal => absurd equal less.ne) fun equal => absurd equal less.ne
  | responded response rest loop front triggered =>
      obtain ⟨queue, inFlight, _⟩ := triggered_front front triggered
      have less : RunningServer.work { running with loop, sent := running.sent ++ [response] } <
          running.work := by
        simp only [RunningServer.work, queue, inFlight, front, List.cons_append, List.map_cons,
          List.sum_cons, ServerOperation.cost]
        omega
      exact rank_lt less.le (fun equal => absurd equal less.ne) fun equal => absurd equal less.ne
  | acted action server response entitled asked stepped =>
      have effect := serverAct_effect stepped
      have owes := effect.owes asked
      have budget := effect.budget own
      refine rank_lt ?_ (fun _ => ?_) fun _ _ => ?_
      · rw [reply_work]
        unfold RunningServer.work
        simp only
        omega
      · rw [reply_transit]
        unfold RunningServer.transit
        simp only
        omega
      · simpa [RunningServer.ahead] using budget

theorem exists_own_act (reached : ∃ serverActions,
      run (serverStep contents) Server.initial serverActions = some running.server)
    (busy : running.server.handler ≠ .idle) (alive : running.server.handler ≠ .aborted) :
    ∃ action server response, OwnWork contents running.server action ∧
      serverAct contents running.server action = some (server, response) := by
  obtain ⟨serverActions, ran⟩ := reached
  by_contra none
  have halted : Halted (serverStep contents) (OwnWork contents) running.server := by
    intro action own
    cases acted : serverAct contents running.server action with
    | none => simp [serverStep, acted]
    | some outcome => exact absurd ⟨action, outcome.1, outcome.2, own, acted⟩ none
  rcases settled_of_stuck ran halted with aborted | ⟨idle, _⟩
  · exact alive aborted
  · exact busy idle

theorem ownWork_request {server : Server} {action : ServerAction}
    (own : OwnWork contents server action) : action.request? = none := by
  cases action <;> first | rfl | exact absurd own (by simp [OwnWork])


theorem exists_accepted {server : Server} (request : Request) (idle : server.handler = .idle) :
    ∃ entered, serverStep contents server (.accept request) = some entered := by
  cases request <;> simp [serverStep, serverAct, threadAct, acceptRequest, idle, silent]

theorem exists_own_step
    (ran : run (runningStep contents) RunningServer.initial actions = some running)
    (alive : running.server.handler ≠ .aborted) :
    ∃ action, OwnProgress contents running action ∧ runningStep contents running action ≠ none ∧
      (action = .progressed → running.loop.inFlight = []) := by
  have inv := run_loopInv ran
  cases pc : running.loop.pc with
  | ended => exact absurd pc inv.notEnded
  | top => exact ⟨.test, trivial, by simp [runningStep, alive, Loop.test, pc], by simp⟩
  | tested ran => exact ⟨.test, trivial, by simp [runningStep, alive, Loop.test, pc], by simp⟩
  | idle => exact ⟨.test, trivial, by simp [runningStep, alive, Loop.test, pc], by simp⟩
  | progressing =>
      cases inFlight : running.loop.inFlight with
      | nil =>
          refine ⟨.progressed, trivial, ?_, fun _ => rfl⟩
          simp [runningStep, alive, Loop.progressed, pc]
      | cons operation rest =>
          refine ⟨.complete 0, trivial, ?_, by simp⟩
          simp [runningStep, alive, Loop.complete, pc, inFlight]
  | triggering =>
      have idle := inv.idle (by simp [pc])
      refine ⟨.trigger, trivial, ?_, by simp⟩
      cases queue : running.loop.queue with
      | nil => simp [runningStep, alive, triggerStep, Loop.trigger, pc, queue]
      | cons operation rest =>
          cases operation with
          | request request =>
              obtain ⟨entered, accepted⟩ := @exists_accepted contents _ request idle
              simp [runningStep, alive, triggerStep, Loop.trigger, pc, queue, accepted]
          | bulkTransfer response =>
              simp [runningStep, alive, triggerStep, Loop.trigger, pc, queue]
  | running =>
      by_cases idle : running.server.handler = .idle
      · refine ⟨.finish, trivial, ?_, by simp⟩
        simp [runningStep, finishStep, Loop.finish, idle, pc]
      · obtain ⟨serverActions, follows⟩ := run_follows ran
        obtain ⟨action, server, response, own, acted⟩ :=
          exists_own_act ⟨serverActions, follows.ran⟩ idle alive
        refine ⟨.act action, own, ?_, by simp⟩
        simp [runningStep, alive, actStep, pc, ownWork_request own, acted]

theorem served_of_halted
    (ran : run (runningStep contents) RunningServer.initial actions = some running)
    (halted : Halted (runningStep contents) (Serving contents) running) :
    running.server.handler = .aborted ∨ running.Served := by
  by_contra! unfinished
  obtain ⟨alive, waiting⟩ := unfinished
  obtain ⟨action, own, enabled, fruitless⟩ := exists_own_step ran alive
  refine enabled (halted action ⟨own, waiting, fun progressed empty => ?_⟩)
  have inFlight := fruitless progressed
  subst progressed
  have idle := (run_loopInv ran).idle fun inside => enabled (by
    simp [runningStep, alive, Loop.progressed, inside])
  exact waiting ⟨empty, inFlight, idle⟩

end

/-- Whatever has been done before, and in whatever order the threads go on, after finitely many
steps all requests that have arrived are handled and all responses are sent, unless an assertion
has failed. -/
theorem arrived_requests_are_answered (contents : String → Option Bytes)
    (actions : List RunningAction) (running : RunningServer)
    (ran : run (runningStep contents) RunningServer.initial actions = some running) :
    ¬ Endless (runningStep contents) (Serving contents) running ∧
    ∀ later final, Meets (runningStep contents) (Serving contents) running later →
      run (runningStep contents) running later = some final →
      Halted (runningStep contents) (Serving contents) final →
      final.server.handler = .aborted ∨ ∃ serverActions,
        run (serverStep contents) Server.initial serverActions = some final.server ∧
        final.server.handler = .idle ∧
        (serverActions.filterMap ServerAction.request?).Perm
          (actions.filterMap RunningAction.request?) ∧
        (responses contents Server.initial serverActions).Perm final.sent := by
  constructor
  · refine not_endless_of_decreasing LoopInv (RunningServer.rank contents) ?_ (run_loopInv ran)
    intro state action next inv serving stepped
    have effect := (runningStep_effect stepped).2
    exact ⟨effect.loopInv inv, effect.rank inv serving⟩
  · intro later final serving further halted
    have whole := (run_append _ actions later final).mpr ⟨running, ran, further⟩
    refine (served_of_halted whole halted).imp_right fun served => ?_
    obtain ⟨serverActions, follows⟩ := run_follows whole
    have quiet : later.filterMap RunningAction.request? = [] := by
      rw [List.filterMap_eq_nil_iff]
      refine forall_of_meets _ (fun state action guarded => ?_) serving further
      cases action <;> first | rfl | exact absurd guarded.1 (by simp [OwnProgress])
    have arrived := run_requests whole
    rw [List.filterMap_append, quiet, List.append_nil] at arrived
    refine ⟨serverActions, follows.ran, served.handler, ?_, ?_⟩
    · rw [follows.accepted]
      simpa [RunningServer.requests, Loop.operations, served.queue, served.inFlight] using arrived
    · simpa [RunningServer.unsent, served.queue, served.inFlight] using follows.answered

def unansweredRead : List RunningAction := overtakenRead.take 24

theorem arrived_requests_are_answered_unansweredRead : ∃ running,
    run (runningStep oneFile) RunningServer.initial unansweredRead = some running ∧
    running.unsent = [.rpcOut { client := 0, callback := .readCb } 3 [1, 2, 3]] ∧
    running.loop.inFlight.length = 2 ∧
    ¬ Endless (runningStep oneFile) (Serving oneFile) running ∧
    ∀ later final, Meets (runningStep oneFile) (Serving oneFile) running later →
      run (runningStep oneFile) running later = some final →
      Halted (runningStep oneFile) (Serving oneFile) final →
      final.server.handler = .aborted ∨ ∃ serverActions,
        run (serverStep oneFile) Server.initial serverActions = some final.server ∧
        final.server.handler = .idle ∧
        (serverActions.filterMap ServerAction.request?).Perm
          (unansweredRead.filterMap RunningAction.request?) ∧
        (responses oneFile Server.initial serverActions).Perm final.sent := by
  have reached : (run (runningStep oneFile) RunningServer.initial unansweredRead).map
      (fun running => (running.unsent, running.loop.inFlight.length)) =
      some ([.rpcOut { client := 0, callback := .readCb } 3 [1, 2, 3]], 2) := by decide
  obtain ⟨running, ran, facts⟩ := Option.map_eq_some_iff.mp reached
  simp only [Prod.mk.injEq] at facts
  exact ⟨running, ran, facts.1, facts.2,
    arrived_requests_are_answered oneFile unansweredRead running ran⟩

end HvacCache
