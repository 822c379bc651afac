import HvacCache.RpcBlock
import HvacCache.Library.EventLoop

/-! The progress thread of a client. Its callbacks are those of the blocking requests, and the
destructor of the client library sets the flag that ends its loop. -/

namespace HvacCache

open EventLoop Transition

/-- The operations of the loop are the forwarded requests, by their numbers. -/
structure RunningClient (Thread : Type) where
  block : BlockState Thread
  loop : Loop Nat

def RunningClient.initial (Thread : Type) : RunningClient Thread := {
  block := .initial Thread
  loop := .initial
}

/-- `call` is what an application thread does inside a request or its block function. -/
inductive ProgressAction (Thread : Type)
  | call (action : BlockAction Thread)
  | shutdownComm
  | test
  | trigger (ret : Int) (woken : Option Thread)
  | finish
  | complete (index : Nat)
  | progressed

def ProgressAction.calls {Thread : Type} : ProgressAction Thread → List (BlockAction Thread)
  | .call action => [action]
  | _ => []

def BlockAction.answers? {Thread : Type} : BlockAction Thread → Option Nat
  | .callback rpc _ _ => some rpc
  | _ => none

@[simp] theorem BlockAction.answers?_callback {Thread : Type} (rpc : Nat) (ret : Int)
    (woken : Option Thread) : (BlockAction.callback rpc ret woken).answers? = some rpc := rfl

@[simp] theorem BlockAction.answers?_forward {Thread : Type} (thread : Thread) :
    (BlockAction.forward thread).answers? = none := rfl

section
variable {Thread : Type} {client : RunningClient Thread}

structure AnswerInv (client : RunningClient Thread) : Prop where
  posted : client.loop.operations.Perm (List.range client.block.nextRpc)
  known : ∀ rpc : Nat, (client.block.rpcs[rpc]?).isSome ↔ rpc < client.block.nextRpc
  answered : ∀ (rpc : Nat) (issued : IssuedRpc), client.block.rpcs[rpc]? = some issued →
    (issued.answer ≠ none ↔ rpc ∈ client.loop.started)

theorem AnswerInv.queued (inv : AnswerInv client) {rpc : Nat} {rest : List Nat}
    (front : client.loop.queue = rpc :: rest) :
    ∃ kind, client.block.rpcs[rpc]? = some { kind, answer := none } := by
  have present : rpc ∈ client.loop.operations := by simp [Loop.operations, front]
  have below := List.mem_range.mp (inv.posted.subset present)
  obtain ⟨⟨kind, answer⟩, found⟩ := Option.isSome_iff_exists.mp ((inv.known rpc).mpr below)
  have once := (inv.posted.nodup_iff).mpr List.nodup_range
  have waits : rpc ∉ client.loop.started := by
    intro started
    simp only [Loop.operations, front, List.append_assoc] at once
    exact List.disjoint_of_nodup_append once started (by simp)
  cases answer with
  | none => exact ⟨kind, found⟩
  | some ret => exact absurd ((inv.answered rpc _ found).mp (by simp)) waits

end

section
variable {Thread : Type} [DecidableEq Thread] {block after : BlockState Thread}

/-! What the steps of the requests do to the table of requests. -/

theorem resetStep_rpcs {thread : Thread} (stepped : resetStep block thread = some after) :
    after.nextRpc = block.nextRpc ∧ after.rpcs = block.rpcs := by
  unfold resetStep at stepped
  split at stepped <;> simp only [Option.some.injEq, reduceCtorEq] at stepped <;>
    exact stepped ▸ ⟨rfl, rfl⟩

theorem forwardStep_rpcs {thread : Thread} (stepped : forwardStep block thread = some after) :
    ∃ kind, after.nextRpc = block.nextRpc + 1 ∧
      after.rpcs = block.rpcs.insert block.nextRpc { kind, answer := none } := by
  unfold forwardStep at stepped
  split at stepped
  · rename_i kind prepared
    simp only [Option.some.injEq] at stepped
    exact ⟨kind, stepped ▸ ⟨rfl, rfl⟩⟩
  · simp at stepped

end

section
variable {Thread : Type} [DecidableEq Thread] [Fintype Thread]
  {client next final : RunningClient Thread} {action : ProgressAction Thread}
  {actions : List (ProgressAction Thread)} {block after : BlockState Thread}

theorem signalDone_rpcs {woken : Option Thread} (stepped : signalDone block woken = some after) :
    after.nextRpc = block.nextRpc ∧ after.rpcs = block.rpcs := by
  cases woken with
  | none =>
      simp only [signalDone, Option.ite_none_right_eq_some, Option.some.injEq] at stepped
      exact stepped.2 ▸ ⟨rfl, rfl⟩
  | some thread =>
      simp only [signalDone] at stepped
      split at stepped
      · simp only [Option.some.injEq] at stepped
        exact stepped ▸ ⟨rfl, rfl⟩
      · simp at stepped

theorem callbackStep_rpcs {rpc : Nat} {ret : Int} {woken : Option Thread}
    (stepped : callbackStep block rpc ret woken = some after) :
    ∃ kind, block.rpcs[rpc]? = some { kind, answer := none } ∧
      after.nextRpc = block.nextRpc ∧
      after.rpcs = block.rpcs.insert rpc { kind, answer := some ret } := by
  unfold callbackStep at stepped
  split at stepped
  · rename_i kind found
    obtain ⟨nextRpc, rpcs⟩ := signalDone_rpcs stepped
    exact ⟨kind, found, nextRpc, rpcs⟩
  · simp at stepped

/-- A callback is run by the progress thread only. -/
def requestStep (client : RunningClient Thread) :
    BlockAction Thread → Option (RunningClient Thread)
  | .callback _ _ _ => none
  | .forward thread =>
      (forwardStep client.block thread).map fun block =>
        { block, loop := client.loop.post client.block.nextRpc }
  | action => (blockStep client.block action).map fun block => { client with block }

def triggerCallback (client : RunningClient Thread) (ret : Int) (woken : Option Thread) :
    Option (RunningClient Thread) :=
  match client.loop.trigger, client.loop.queue with
  | none, _ => none
  | some loop, [] => some { client with loop }
  | some loop, rpc :: _ =>
      (callbackStep client.block rpc ret woken).map fun block => { block, loop }

def clientLoopStep (client : RunningClient Thread) :
    ProgressAction Thread → Option (RunningClient Thread)
  | .call action => requestStep client action
  | .shutdownComm => some { client with loop := client.loop.stop }
  | .test => client.loop.test.map fun loop => { client with loop }
  | .trigger ret woken => triggerCallback client ret woken
  | .finish => client.loop.finish.map fun loop => { client with loop }
  | .complete index => (client.loop.complete index).map fun loop => { client with loop }
  | .progressed => client.loop.progressed.map fun loop => { client with loop }

def ProgressAction.loopAction? : ProgressAction Thread → Option (LoopAction Nat)
  | .call _ => none
  | .shutdownComm => some .stop
  | .test => some .test
  | .trigger _ _ => some .trigger
  | .finish => some .finish
  | .complete index => some (.complete index)
  | .progressed => some .progressed

inductive ProgressEffect (client : RunningClient Thread) :
    ProgressAction Thread → RunningClient Thread → Prop
  | called (action : BlockAction Thread) (block : BlockState Thread)
      (stepped : blockStep client.block action = some block) (own : action.answers? = none)
      (nextRpc : block.nextRpc = client.block.nextRpc) (rpcs : block.rpcs = client.block.rpcs) :
      ProgressEffect client (.call action) { client with block }
  | forwarded (thread : Thread) (block : BlockState Thread)
      (stepped : forwardStep client.block thread = some block) :
      ProgressEffect client (.call (.forward thread))
        { block, loop := client.loop.post client.block.nextRpc }
  | looped (action : ProgressAction Thread) (loopAction : LoopAction Nat) (loop : Loop Nat)
      (taken : action.loopAction? = some loopAction)
      (stepped : loopStep client.loop loopAction = some loop)
      (same : loop.started = client.loop.started) :
      ProgressEffect client action { client with loop }
  | triggered (rpc : Nat) (rest : List Nat) (ret : Int) (woken : Option Thread)
      (loop : Loop Nat) (block : BlockState Thread) (front : client.loop.queue = rpc :: rest)
      (stepped : loopStep client.loop .trigger = some loop)
      (answered : callbackStep client.block rpc ret woken = some block) :
      ProgressEffect client (.trigger ret woken) { block, loop }

theorem requestStep_effect {action : BlockAction Thread}
    (stepped : requestStep client action = some next) :
    ProgressEffect client (.call action) next := by
  cases action with
  | callback rpc ret woken => simp [requestStep] at stepped
  | forward thread =>
      obtain ⟨block, moved, same⟩ := Option.map_eq_some_iff.mp stepped
      exact same ▸ .forwarded thread block moved
  | reset thread =>
      obtain ⟨block, moved, same⟩ := Option.map_eq_some_iff.mp stepped
      obtain ⟨nextRpc, rpcs⟩ := resetStep_rpcs moved
      exact same ▸ .called _ block moved rfl nextRpc rpcs
  | enter thread kind | test thread | spuriousWakeup thread | collect thread | leave thread =>
      obtain ⟨block, moved, same⟩ := Option.map_eq_some_iff.mp stepped
      have kept : block.nextRpc = client.block.nextRpc ∧ block.rpcs = client.block.rpcs := by
        simp only [blockStep, testStep, collectStep] at moved
        split at moved <;> (try split at moved) <;>
          simp only [Option.some.injEq, reduceCtorEq] at moved <;> exact moved ▸ ⟨rfl, rfl⟩
      exact same ▸ .called _ block moved rfl kept.1 kept.2

theorem clientLooped_effect (loopAction : LoopAction Nat)
    (taken : action.loopAction? = some loopAction) (other : loopAction ≠ .trigger)
    (stepped : (loopStep client.loop loopAction).map (fun loop => { client with loop }) =
      some next) : ProgressEffect client action next := by
  obtain ⟨loop, moved, same⟩ := Option.map_eq_some_iff.mp stepped
  exact same ▸ .looped action loopAction loop taken moved
    ((loopStep_effect moved).started_eq (Or.inl other))

theorem clientLoopStep_effect (stepped : clientLoopStep client action = some next) :
    ProgressEffect client action next := by
  cases action with
  | call action => exact requestStep_effect stepped
  | shutdownComm => exact clientLooped_effect .stop rfl (by simp) stepped
  | test => exact clientLooped_effect .test rfl (by simp) stepped
  | finish => exact clientLooped_effect .finish rfl (by simp) stepped
  | complete index => exact clientLooped_effect (.complete index) rfl (by simp) stepped
  | progressed => exact clientLooped_effect .progressed rfl (by simp) stepped
  | trigger ret woken =>
      simp only [clientLoopStep, triggerCallback] at stepped
      split at stepped
      · simp at stepped
      · rename_i loop triggered empty
        simp only [Option.some.injEq] at stepped
        have moved : loopStep client.loop .trigger = some loop := triggered
        exact stepped ▸ .looped _ .trigger loop rfl moved
          ((loopStep_effect moved).started_eq (Or.inr empty))
      · rename_i loop rpc rest triggered front
        obtain ⟨block, answered, same⟩ := Option.map_eq_some_iff.mp stepped
        exact same ▸ .triggered rpc rest ret woken loop block front triggered answered

theorem ProgressEffect.answerInv (effect : ProgressEffect client action next)
    (inv : AnswerInv client) : AnswerInv next := by
  cases effect with
  | called action block stepped own nextRpc rpcs =>
      refine ⟨?_, ?_, ?_⟩
      · simpa only [nextRpc] using inv.posted
      · simpa only [nextRpc, rpcs] using inv.known
      · simpa only [rpcs] using inv.answered
  | forwarded thread block stepped =>
      obtain ⟨kind, nextRpc, rpcs⟩ := forwardStep_rpcs stepped
      refine ⟨?_, ?_, ?_⟩
      · have posted : loopStep client.loop (.post client.block.nextRpc) =
            some (client.loop.post client.block.nextRpc) := rfl
        have moved := (loopStep_effect posted).operations
        simp only [nextRpc, List.range_succ]
        exact moved.trans (inv.posted.append_right _)
      · intro rpc
        simp only [nextRpc, rpcs, OrderedMap.getElem?_insert_ite]
        split
        · simp [*]
        · rw [inv.known rpc]
          omega
      · intro rpc issued found
        simp only [rpcs] at found
        rcases OrderedMap.found_insert found with ⟨same, fresh⟩ | ⟨_, old⟩
        · subst rpc issued
          have unknown : client.block.nextRpc ∉ client.loop.started := by
            intro started
            have posted : client.block.nextRpc ∈ List.range client.block.nextRpc :=
              inv.posted.subset (by simp [Loop.operations, started])
            simp at posted
          simp [unknown]
        · exact inv.answered rpc issued old
  | looped action loopAction loop taken stepped same =>
      have nothing : loopAction.posted = [] := by
        cases action <;> simp only [ProgressAction.loopAction?, Option.some.injEq,
          reduceCtorEq] at taken <;> subst taken <;> rfl
      have moved := (loopStep_effect stepped).operations
      rw [nothing, List.append_nil] at moved
      refine ⟨moved.trans inv.posted, inv.known, ?_⟩
      simpa only [same] using inv.answered
  | triggered rpc rest ret woken loop block front stepped answered =>
      obtain ⟨kind, found, nextRpc, rpcs⟩ := callbackStep_rpcs answered
      obtain ⟨_, _, started⟩ := triggered_front front stepped
      have moved := (loopStep_effect stepped).operations
      refine ⟨?_, ?_, ?_⟩
      · simpa only [nextRpc, LoopAction.posted, List.append_nil] using moved.trans
          ((List.append_nil _).symm ▸ inv.posted)
      · intro other
        simp only [nextRpc, rpcs, OrderedMap.getElem?_insert_ite]
        rw [← inv.known other]
        split
        · rename_i same
          simp [← same, found]
        · exact Iff.rfl
      · intro other issued listed
        simp only [rpcs] at listed
        simp only [started]
        rcases OrderedMap.found_insert listed with ⟨same, now⟩ | ⟨different, old⟩
        · subst other issued
          simp
        · have kept := inv.answered other issued old
          simpa [different] using kept

theorem ProgressEffect.started_subset (effect : ProgressEffect client action next) :
    client.loop.started ⊆ next.loop.started := by
  cases effect with
  | called | forwarded => exact List.Subset.refl _
  | looped action loopAction loop taken stepped same => exact same ▸ List.Subset.refl _
  | triggered rpc rest ret woken loop block front stepped answered =>
      obtain ⟨_, _, started⟩ := triggered_front front stepped
      rw [started]
      exact List.subset_append_left _ _

theorem run_answerInv
    (ran : run clientLoopStep (RunningClient.initial Thread) actions = some client) :
    AnswerInv client := by
  have initial : AnswerInv (RunningClient.initial Thread) := by
    refine ⟨List.Perm.refl _, ?_, ?_⟩ <;>
      simp [RunningClient.initial, BlockState.initial]
  exact run_invariant
    (fun _ _ _ inv stepped => (clientLoopStep_effect stepped).answerInv inv) initial ran

/-- The requests go through a run of their own, with the calls of this one and the callbacks in
the order in which the progress thread has taken them. -/
structure CallbackRun (client : RunningClient Thread) (actions : List (ProgressAction Thread))
    (blockActions : List (BlockAction Thread)) : Prop where
  ran : run blockStep (BlockState.initial Thread) blockActions = some client.block
  called : blockActions.filter (fun action => action.answers?.isNone) =
    actions.flatMap ProgressAction.calls
  answered : blockActions.filterMap BlockAction.answers? = client.loop.started

theorem ProgressEffect.toLoop (effect : ProgressEffect client action next) :
    ∃ loopActions, run loopStep client.loop loopActions = some next.loop := by
  cases effect with
  | called action block stepped own nextRpc rpcs => exact ⟨[], rfl⟩
  | forwarded thread block stepped => exact ⟨[.post client.block.nextRpc], rfl⟩
  | looped action loopAction loop taken stepped same =>
      exact ⟨[loopAction], (run_single _ _ _).mpr stepped⟩
  | triggered rpc rest ret woken loop block front stepped answered =>
      exact ⟨[.trigger], (run_single _ _ _).mpr stepped⟩

theorem CallbackRun.step {blockActions : List (BlockAction Thread)}
    (replayed : CallbackRun client actions blockActions)
    (effect : ProgressEffect client action next) :
    ∃ more, CallbackRun next (actions ++ [action]) (blockActions ++ more) := by
  obtain ⟨ran, called, answered⟩ := replayed
  cases effect with
  | called action block stepped own nextRpc rpcs =>
      refine ⟨[action], (run_concat _ _ _ _).mpr ⟨_, ran, stepped⟩, ?_, ?_⟩
      · simp [called, own, ProgressAction.calls]
      · simp [answered, own]
  | forwarded thread block stepped =>
      refine ⟨[.forward thread], (run_concat _ _ _ _).mpr ⟨_, ran, stepped⟩, ?_, ?_⟩
      · simp [called, ProgressAction.calls]
      · simp [answered]
  | looped action loopAction loop taken stepped same =>
      refine ⟨[], by simpa using ran, ?_, ?_⟩
      · have silent : action.calls = [] := by
          cases action <;> first | rfl | simp [ProgressAction.loopAction?] at taken
        simp [called, silent]
      · simp [answered, same]
  | triggered rpc rest ret woken loop block front stepped answer =>
      obtain ⟨_, _, started⟩ := triggered_front front stepped
      refine ⟨[.callback rpc ret woken], (run_concat _ _ _ _).mpr ⟨_, ran, answer⟩, ?_, ?_⟩
      · simp [called, ProgressAction.calls]
      · simp [answered, started]

theorem run_callbackRun
    (ran : run clientLoopStep (RunningClient.initial Thread) actions = some client) :
    ∃ blockActions, CallbackRun client actions blockActions := by
  let Kept (earlier : List (ProgressAction Thread)) (state : RunningClient Thread) : Prop :=
    ∃ blockActions, CallbackRun state earlier blockActions
  have preserved : ∀ earlier state action after, Kept earlier state →
      clientLoopStep state action = some after → Kept (earlier ++ [action]) after := by
    rintro earlier state action after ⟨blockActions, replayed⟩ stepped
    obtain ⟨more, further⟩ := replayed.step (clientLoopStep_effect stepped)
    exact ⟨blockActions ++ more, further⟩
  have initial : CallbackRun (RunningClient.initial Thread) [] [] := ⟨rfl, rfl, rfl⟩
  exact run_history preserved ⟨[], initial⟩ ran

def TakesTurns (client : RunningClient Thread) : ProgressAction Thread → Prop
  | .call action => Serial client.block action
  | _ => True

instance (client : RunningClient Thread) (action : ProgressAction Thread) :
    Decidable (TakesTurns client action) := by
  unfold TakesTurns
  split <;> infer_instance

theorem ProgressEffect.serialInv (effect : ProgressEffect client action next)
    (turns : TakesTurns client action) (inv : SerialInv client.block) : SerialInv next.block := by
  cases effect with
  | called action block stepped own nextRpc rpcs =>
      exact blockStep_serialInv _ action _ inv turns stepped
  | forwarded thread block stepped => exact inv.forwardStep stepped
  | looped action loopAction loop taken stepped same => exact inv
  | triggered rpc rest ret woken loop block front stepped answered =>
      exact inv.callbackStep answered

theorem run_serialInv
    (turns : Meets clientLoopStep TakesTurns (RunningClient.initial Thread) actions)
    (ran : run clientLoopStep (RunningClient.initial Thread) actions = some client) :
    SerialInv client.block :=
  run_invariant_of_meets
    (fun _ _ _ inv turns stepped => (clientLoopStep_effect stepped).serialInv turns inv)
    serialInv_initial turns ran

/-! The thread after the end of the client library. -/

def ProgressAction.byThread (action : ProgressAction Thread) : Bool :=
  action.loopAction?.any LoopAction.byThread

theorem ProgressEffect.distance (effect : ProgressEffect client action next)
    (stopping : client.loop.stopping = true) :
    next.loop.stopping = true ∧
      next.loop.pc.distance + action.byThread.toNat ≤ client.loop.pc.distance := by
  cases effect with
  | called action block stepped own nextRpc rpcs => exact ⟨stopping, le_rfl⟩
  | forwarded thread block stepped => exact ⟨stopping, le_rfl⟩
  | looped action loopAction loop taken stepped same =>
      have effect := loopStep_effect stepped
      refine ⟨effect.stopping stopping, ?_⟩
      simpa only [ProgressAction.byThread, taken, Option.any_some] using effect.distance stopping
  | triggered rpc rest ret woken loop block front stepped answered =>
      have effect := loopStep_effect stepped
      exact ⟨effect.stopping stopping, effect.distance stopping⟩

theorem run_distance {later : List (ProgressAction Thread)}
    (stopping : client.loop.stopping = true)
    (ran : run clientLoopStep client later = some final) :
    later.countP ProgressAction.byThread + final.loop.pc.distance ≤ client.loop.pc.distance := by
  let Kept (earlier : List (ProgressAction Thread)) (state : RunningClient Thread) : Prop :=
    state.loop.stopping = true ∧
      earlier.countP ProgressAction.byThread + state.loop.pc.distance ≤ client.loop.pc.distance
  have preserved : ∀ earlier state action after, Kept earlier state →
      clientLoopStep state action = some after → Kept (earlier ++ [action]) after := by
    rintro earlier state action after ⟨still, bound⟩ stepped
    obtain ⟨further, lower⟩ := (clientLoopStep_effect stepped).distance still
    refine ⟨further, ?_⟩
    cases own : action.byThread <;> simp [own] at lower ⊢ <;> omega
  have initial : Kept [] client := ⟨stopping, by simp⟩
  exact (run_history preserved initial ran).2

theorem exists_signalled (block : BlockState Thread) :
    ∃ woken, signalDone block woken ≠ none := by
  by_cases parked : ∃ thread, (block.pc thread).isWaiting = true
  · obtain ⟨thread, waiting⟩ := parked
    refine ⟨some thread, ?_⟩
    cases pc : block.pc thread <;> simp_all [signalDone, ThreadPc.isWaiting]
  · exact ⟨none, by simpa [signalDone] using parked⟩

theorem exists_step_of_not_ended (inv : AnswerInv client) (running : client.loop.pc ≠ .ended) :
    ∃ action, action.byThread = true ∧ clientLoopStep client action ≠ none := by
  cases pc : client.loop.pc with
  | ended => exact absurd pc running
  | top | tested | idle =>
      refine ⟨.test, rfl, ?_⟩
      simp [clientLoopStep, Loop.test, pc]
  | progressing =>
      refine ⟨.progressed, rfl, ?_⟩
      simp [clientLoopStep, Loop.progressed, pc]
  | running =>
      refine ⟨.finish, rfl, ?_⟩
      simp [clientLoopStep, Loop.finish, pc]
  | triggering =>
      cases queue : client.loop.queue with
      | nil =>
          refine ⟨.trigger 0 none, rfl, ?_⟩
          simp [clientLoopStep, triggerCallback, Loop.trigger, pc, queue]
      | cons rpc rest =>
          obtain ⟨kind, found⟩ := inv.queued queue
          obtain ⟨woken, enabled⟩ := exists_signalled { client.block with
            completion := if kind = .openRpc then client.block.completion.openCb
              else client.block.completion.readCb 0
            rpcs := client.block.rpcs.insert rpc { kind, answer := some 0 } }
          refine ⟨.trigger 0 woken, rfl, ?_⟩
          simpa [clientLoopStep, triggerCallback, Loop.trigger, pc, queue, callbackStep, found]
            using enabled

def BlockAction.moved? : BlockAction Thread → Option Thread
  | .callback _ _ woken => woken
  | .enter thread _ | .reset thread | .forward thread | .test thread | .spuriousWakeup thread
  | .collect thread | .leave thread => some thread

theorem signalDone_others {woken : Option Thread} {thread : Thread}
    (stepped : signalDone block woken = some after) (other : woken ≠ some thread) :
    after.pc thread = block.pc thread := by
  cases woken with
  | none =>
      simp only [signalDone, Option.ite_none_right_eq_some, Option.some.injEq] at stepped
      rw [← stepped.2]
  | some sleeper =>
      have different : thread ≠ sleeper := fun same => other (same ▸ rfl)
      simp only [signalDone] at stepped
      split at stepped
      · simp only [Option.some.injEq] at stepped
        rw [← stepped]
        exact Function.update_of_ne different _ _
      · simp at stepped

theorem blockStep_others {action : BlockAction Thread} {thread : Thread}
    (stepped : blockStep block action = some after) (other : action.moved? ≠ some thread) :
    after.pc thread = block.pc thread := by
  cases action with
  | callback rpc ret woken =>
      simp only [blockStep, callbackStep] at stepped
      split at stepped
      · have kept := signalDone_others stepped other
        exact kept
      · simp at stepped
  | enter actor kind | reset actor | forward actor | test actor | spuriousWakeup actor
  | collect actor | leave actor =>
      have different : thread ≠ actor := fun same => other (same ▸ rfl)
      simp only [blockStep, resetStep, forwardStep, testStep, collectStep] at stepped
      split at stepped <;> (try split at stepped) <;>
        simp only [Option.some.injEq, reduceCtorEq] at stepped <;>
        exact stepped ▸ Function.update_of_ne different _ _

theorem signalDone_woken {thread : Thread} (stepped : signalDone block (some thread) = some after) :
    ∃ kind rpc, block.pc thread = .waiting kind rpc ∧ after.pc thread = .blocking kind rpc := by
  simp only [signalDone] at stepped
  split at stepped
  · rename_i kind rpc waiting
    simp only [Option.some.injEq] at stepped
    exact ⟨kind, rpc, waiting, by simp [← stepped, BlockState.setPc]⟩
  · simp at stepped

theorem blockStep_stays_blocked (inv : SerialInv block) {thread : Thread} {kind : RpcKind}
    {rpc : Nat} {action : BlockAction Thread}
    (blocked : block.pc thread = .blocking kind rpc ∨ block.pc thread = .waiting kind rpc)
    (unanswered : block.rpcs[rpc]? = some { kind, answer := none })
    (stepped : blockStep block action = some after) :
    after.pc thread = .blocking kind rpc ∨ after.pc thread = .waiting kind rpc := by
  have notReady : block.completion.ready = false := by
    obtain ⟨answer, issued, delivered⟩ := inv.blocked_answer blocked
    rw [unanswered, Option.some.injEq, IssuedRpc.mk.injEq] at issued
    rw [← issued.2] at delivered
    simp [Completion.ready, show block.completion.done = 0 from delivered]
  by_cases moved : action.moved? = some thread
  · cases action with
    | callback other ret woken =>
        simp only [BlockAction.moved?] at moved
        subst moved
        simp only [blockStep, callbackStep] at stepped
        split at stepped
        · obtain ⟨waitingKind, waitingRpc, waiting, woken⟩ := signalDone_woken stepped
          have slept : block.pc thread = .waiting waitingKind waitingRpc := waiting
          rw [slept] at blocked
          simp only [reduceCtorEq, ThreadPc.waiting.injEq, false_or] at blocked
          obtain ⟨rfl, rfl⟩ := blocked
          exact Or.inl woken
        · simp at stepped
    | enter actor | reset actor | forward actor | test actor | spuriousWakeup actor
    | collect actor | leave actor =>
        simp only [BlockAction.moved?, Option.some.injEq] at moved
        subst moved
        rcases blocked with blocked | blocked <;>
          simp only [blockStep, resetStep, forwardStep, testStep, collectStep, blocked, notReady,
            Option.some.injEq, reduceCtorEq, Bool.false_eq_true, if_false] at stepped <;>
          simp [← stepped, BlockState.setPc]
  · rwa [blockStep_others stepped moved]

/-- Where the application threads take turns, a call returns after its own answer only. -/
theorem run_stays_blocked {thread : Thread} {kind : RpcKind} {rpc : Nat}
    {later : List (ProgressAction Thread)} (answers : AnswerInv client)
    (serial : SerialInv client.block)
    (blocked : client.block.pc thread = .blocking kind rpc ∨
      client.block.pc thread = .waiting kind rpc)
    (turns : Meets clientLoopStep TakesTurns client later)
    (ran : run clientLoopStep client later = some final)
    (unanswered : rpc ∉ final.loop.started) :
    final.block.pc thread = .blocking kind rpc ∨ final.block.pc thread = .waiting kind rpc := by
  let Kept (state : RunningClient Thread) : Prop :=
    AnswerInv state ∧ SerialInv state.block ∧ (rpc ∉ state.loop.started →
      state.block.pc thread = .blocking kind rpc ∨ state.block.pc thread = .waiting kind rpc)
  have preserved : ∀ state action after, Kept state → TakesTurns state action →
      clientLoopStep state action = some after → Kept after := by
    rintro state action after ⟨answers, serial, blocked⟩ turns stepped
    have effect := clientLoopStep_effect stepped
    refine ⟨effect.answerInv answers, effect.serialInv turns serial, ?_⟩
    intro unanswered
    have earlier : rpc ∉ state.loop.started :=
      fun listed => unanswered (effect.started_subset listed)
    obtain ⟨answer, issued, _⟩ := serial.blocked_answer (blocked earlier)
    have pending : answer = none := by
      by_contra answered
      exact earlier ((answers.answered rpc _ issued).mp answered)
    subst pending
    cases effect with
    | called action block moved own nextRpc rpcs =>
        exact blockStep_stays_blocked serial (blocked earlier) issued moved
    | forwarded other block moved =>
        have forwarded : blockStep state.block (.forward other) = some block := moved
        exact blockStep_stays_blocked serial (blocked earlier) issued forwarded
    | looped action loopAction loop taken moved same => exact blocked earlier
    | triggered other rest ret woken loop block front moved answered =>
        have called : blockStep state.block (.callback other ret woken) = some block := answered
        exact blockStep_stays_blocked serial (blocked earlier) issued called
  exact (run_invariant_of_meets preserved ⟨answers, serial, fun _ => blocked⟩ turns ran).2.2
    unanswered

/-- Each forwarded request is in the loop once, and is answered by its own callback and by that
only. The block functions go through a run of their own, in which callers that take turns get
their own responses. -/
theorem client_loop_refines_requests (actions : List (ProgressAction Thread))
    (client : RunningClient Thread)
    (ran : run clientLoopStep (RunningClient.initial Thread) actions = some client) :
    (∃ blockActions, run blockStep (BlockState.initial Thread) blockActions = some client.block ∧
      blockActions.filter (fun action => action.answers?.isNone) =
        actions.flatMap ProgressAction.calls ∧
      blockActions.filterMap BlockAction.answers? = client.loop.started) ∧
    client.loop.operations.Perm (List.range client.block.nextRpc) ∧
    (∀ (rpc : Nat) (issued : IssuedRpc), client.block.rpcs[rpc]? = some issued →
      (issued.answer ≠ none ↔ rpc ∈ client.loop.started)) ∧
    (Meets clientLoopStep TakesTurns (RunningClient.initial Thread) actions →
      Attributed client.block ∧ ¬Stuck client.block) := by
  have inv := run_answerInv ran
  refine ⟨?_, inv.posted, inv.answered, ?_⟩
  · obtain ⟨blockActions, replayed⟩ := run_callbackRun ran
    exact ⟨blockActions, replayed.ran, replayed.called, replayed.answered⟩
  · intro turns
    have serial := run_serialInv turns ran
    exact ⟨serial.attributed, serial.not_stuck⟩

def answeredRead : List (ProgressAction Bool) := [
  .call (.enter false .readRpc), .call (.reset false), .call (.reset false), .call (.forward false),
  .call (.test false), .test, .trigger 0 none, .test, .test, .complete 0, .progressed, .test,
  .trigger 7 (some false), .finish, .call (.test false), .call (.collect false)
]

theorem client_loop_refines_requests_answeredRead : ∃ client,
    run clientLoopStep (RunningClient.initial Bool) answeredRead = some client ∧
    client.block.pc false = .returned .readRpc 0 (some 7) ∧
    (∃ blockActions, run blockStep (BlockState.initial Bool) blockActions = some client.block ∧
      blockActions.filter (fun action => action.answers?.isNone) =
        answeredRead.flatMap ProgressAction.calls ∧
      blockActions.filterMap BlockAction.answers? = client.loop.started) ∧
    client.loop.operations.Perm (List.range client.block.nextRpc) ∧
    (∀ (rpc : Nat) (issued : IssuedRpc), client.block.rpcs[rpc]? = some issued →
      (issued.answer ≠ none ↔ rpc ∈ client.loop.started)) ∧
    (Meets clientLoopStep TakesTurns (RunningClient.initial Bool) answeredRead →
      Attributed client.block ∧ ¬Stuck client.block) := by
  have reached : (run clientLoopStep (RunningClient.initial Bool) answeredRead).map
      (fun client => client.block.pc false) = some (.returned .readRpc 0 (some 7)) := by decide
  obtain ⟨client, ran, returned⟩ := Option.map_eq_some_iff.mp reached
  exact ⟨client, ran, returned, client_loop_refines_requests answeredRead client ran⟩

/-- Once the flag is set at most one more callback is run, the progress thread is never held up
and ends within `distance` steps of its own, and where the callers take turns a call whose
request is not answered by then never returns. -/
theorem shutdown_ends_progress_thread (actions later : List (ProgressAction Thread))
    (client final : RunningClient Thread)
    (ran : run clientLoopStep (RunningClient.initial Thread) actions = some client)
    (stopping : client.loop.stopping = true)
    (further : run clientLoopStep client later = some final) :
    (final.loop.started = client.loop.started ∨ client.loop.pc = .triggering ∧
      ∃ rpc, client.loop.queue.head? = some rpc ∧
        final.loop.started = client.loop.started ++ [rpc]) ∧
    later.countP ProgressAction.byThread + final.loop.pc.distance ≤ client.loop.pc.distance ∧
    (final.loop.pc ≠ .ended →
      ∃ action, action.byThread = true ∧ clientLoopStep final action ≠ none) ∧
    (Meets clientLoopStep TakesTurns (RunningClient.initial Thread) (actions ++ later) →
      ∀ thread kind rpc, rpc ∉ final.loop.started →
      client.block.pc thread = .blocking kind rpc ∨ client.block.pc thread = .waiting kind rpc →
      final.block.pc thread = .blocking kind rpc ∨ final.block.pc thread = .waiting kind rpc) := by
  have inv := run_answerInv ran
  refine ⟨?_, run_distance stopping further, ?_, ?_⟩
  · obtain ⟨loopActions, looped⟩ := run_project
      (fun _ _ _ stepped => (clientLoopStep_effect stepped).toLoop) further
    exact run_stopping stopping looped
  · have whole := (run_append _ actions later final).mpr ⟨client, ran, further⟩
    exact exists_step_of_not_ended (run_answerInv whole)
  · intro turns thread kind rpc unanswered blocked
    obtain ⟨before, after⟩ := meets_of_append turns
    exact run_stays_blocked inv (run_serialInv before ran) blocked (after client ran) further
      unanswered

def stoppedOpen : List (ProgressAction Bool) :=
  answeredRead ++ [.call (.enter true .openRpc), .call (.reset true), .call (.forward true),
    .call (.test true), .shutdownComm]

def threeTests : List (ProgressAction Bool) := [.test, .test, .test]

theorem shutdown_ends_progress_thread_stoppedOpen : ∃ client final,
    run clientLoopStep (RunningClient.initial Bool) stoppedOpen = some client ∧
    run clientLoopStep client threeTests = some final ∧
    (final.loop.pc, final.block.pc true) = (.ended, .waiting .openRpc 1) ∧
    (final.loop.started = client.loop.started ∨ client.loop.pc = .triggering ∧
      ∃ rpc, client.loop.queue.head? = some rpc ∧
        final.loop.started = client.loop.started ++ [rpc]) ∧
    threeTests.countP ProgressAction.byThread + final.loop.pc.distance ≤
      client.loop.pc.distance ∧
    (final.loop.pc ≠ .ended →
      ∃ action, action.byThread = true ∧ clientLoopStep final action ≠ none) ∧
    (Meets clientLoopStep TakesTurns (RunningClient.initial Bool)
        (stoppedOpen ++ threeTests) →
      ∀ thread kind rpc, rpc ∉ final.loop.started →
      client.block.pc thread = .blocking kind rpc ∨ client.block.pc thread = .waiting kind rpc →
      final.block.pc thread = .blocking kind rpc ∨ final.block.pc thread = .waiting kind rpc) := by
  have reached : (run clientLoopStep (RunningClient.initial Bool) stoppedOpen).map
      (fun client => client.loop.stopping) = some true := by decide
  obtain ⟨client, ran, stopping⟩ := Option.map_eq_some_iff.mp reached
  have ended : (run clientLoopStep (RunningClient.initial Bool)
      (stoppedOpen ++ threeTests)).map (fun final => (final.loop.pc, final.block.pc true)) =
      some (.ended, .waiting .openRpc 1) := by decide
  obtain ⟨final, whole, pc⟩ := Option.map_eq_some_iff.mp ended
  obtain ⟨middle, same, further⟩ := (run_append _ stoppedOpen _ final).mp whole
  rw [ran, Option.some.injEq] at same
  subst middle
  exact ⟨client, final, ran, further, pc, shutdown_ends_progress_thread stoppedOpen
    threeTests client final ran stopping further⟩

end

end HvacCache
