import HvacCache.Library.Transition
import Mathlib.Data.List.Perm.Basic

/-! A thread that runs the callbacks of completed operations, one at a time. Operations complete
in any order while the thread waits for progress, and are queued as they do. Another thread may
set a flag that ends the loop. -/

namespace EventLoop

open Transition

variable {Operation : Type*}

/-- `tested` is after the attempt to run a callback, and says whether there was one. -/
inductive LoopPc
  | top
  | triggering
  | running
  | tested (ran : Bool)
  | idle
  | progressing
  | ended
deriving DecidableEq, Repr

/-- `started` lists the operations whose callbacks have begun, in that order. -/
structure Loop (Operation : Type*) where
  stopping : Bool
  pc : LoopPc
  inFlight : List Operation
  queue : List Operation
  started : List Operation

def Loop.initial : Loop Operation := {
  stopping := false
  pc := .top
  inFlight := []
  queue := []
  started := []
}

inductive LoopAction (Operation : Type*)
  | post (operation : Operation)
  | stop
  | test
  | trigger
  | finish
  | complete (index : Nat)
  | progressed
deriving DecidableEq, Repr

namespace Loop

def post (loop : Loop Operation) (operation : Operation) : Loop Operation :=
  { loop with inFlight := loop.inFlight ++ [operation] }

def stop (loop : Loop Operation) : Loop Operation := { loop with stopping := true }

def test (loop : Loop Operation) : Option (Loop Operation) :=
  match loop.pc with
  | .top => some { loop with pc := if loop.stopping then .ended else .triggering }
  | .tested ran =>
      some { loop with pc := if ran && !loop.stopping then .triggering else .idle }
  | .idle => some { loop with pc := if loop.stopping then .top else .progressing }
  | _ => none

def trigger (loop : Loop Operation) : Option (Loop Operation) :=
  match loop.pc, loop.queue with
  | .triggering, [] => some { loop with pc := .tested false }
  | .triggering, operation :: rest =>
      some { loop with
        pc := .running
        queue := rest
        started := loop.started ++ [operation] }
  | _, _ => none

def finish (loop : Loop Operation) : Option (Loop Operation) :=
  match loop.pc with
  | .running => some { loop with pc := .tested true }
  | _ => none

def complete (loop : Loop Operation) (index : Nat) : Option (Loop Operation) :=
  match loop.pc, loop.inFlight[index]? with
  | .progressing, some operation =>
      some { loop with
        inFlight := loop.inFlight.eraseIdx index
        queue := loop.queue ++ [operation] }
  | _, _ => none

def progressed (loop : Loop Operation) : Option (Loop Operation) :=
  match loop.pc with
  | .progressing => some { loop with pc := .top }
  | _ => none

end Loop

@[simp] theorem Loop.post_started (loop : Loop Operation) (operation : Operation) :
    (loop.post operation).started = loop.started := rfl

@[simp] theorem Loop.post_queue (loop : Loop Operation) (operation : Operation) :
    (loop.post operation).queue = loop.queue := rfl

@[simp] theorem Loop.post_inFlight (loop : Loop Operation) (operation : Operation) :
    (loop.post operation).inFlight = loop.inFlight ++ [operation] := rfl

@[simp] theorem Loop.post_pc (loop : Loop Operation) (operation : Operation) :
    (loop.post operation).pc = loop.pc := rfl

def loopStep (loop : Loop Operation) : LoopAction Operation → Option (Loop Operation)
  | .post operation => some (loop.post operation)
  | .stop => some loop.stop
  | .test => loop.test
  | .trigger => loop.trigger
  | .finish => loop.finish
  | .complete index => loop.complete index
  | .progressed => loop.progressed

inductive LoopEffect (loop : Loop Operation) : LoopAction Operation → Loop Operation → Prop
  | posted (operation : Operation) : LoopEffect loop (.post operation) (loop.post operation)
  | stopped : LoopEffect loop .stop loop.stop
  | testedTop (top : loop.pc = .top) :
      LoopEffect loop .test
        { loop with pc := if loop.stopping then .ended else .triggering }
  | testedRan (ran : Bool) (tested : loop.pc = .tested ran) :
      LoopEffect loop .test
        { loop with pc := if ran && !loop.stopping then .triggering else .idle }
  | testedIdle (idle : loop.pc = .idle) :
      LoopEffect loop .test { loop with pc := if loop.stopping then .top else .progressing }
  | foundNone (triggering : loop.pc = .triggering) (empty : loop.queue = []) :
      LoopEffect loop .trigger { loop with pc := .tested false }
  | started (operation : Operation) (rest : List Operation) (triggering : loop.pc = .triggering)
      (front : loop.queue = operation :: rest) :
      LoopEffect loop .trigger
        { loop with
          pc := .running
          queue := rest
          started := loop.started ++ [operation] }
  | finished (running : loop.pc = .running) :
      LoopEffect loop .finish { loop with pc := .tested true }
  | completed (index : Nat) (operation : Operation) (progressing : loop.pc = .progressing)
      (pending : loop.inFlight[index]? = some operation) :
      LoopEffect loop (.complete index)
        { loop with
          inFlight := loop.inFlight.eraseIdx index
          queue := loop.queue ++ [operation] }
  | progressed (progressing : loop.pc = .progressing) :
      LoopEffect loop .progressed { loop with pc := .top }

section
variable {loop next final : Loop Operation} {action : LoopAction Operation}

theorem loopStep_effect (stepped : loopStep loop action = some next) :
    LoopEffect loop action next := by
  cases action with
  | post operation =>
      simp only [loopStep, Option.some.injEq] at stepped
      exact stepped ▸ .posted operation
  | stop =>
      simp only [loopStep, Option.some.injEq] at stepped
      exact stepped ▸ .stopped
  | test =>
      simp only [loopStep, Loop.test] at stepped
      split at stepped
      · rename_i top
        simp only [Option.some.injEq] at stepped
        exact stepped ▸ .testedTop top
      · rename_i ran tested
        simp only [Option.some.injEq] at stepped
        exact stepped ▸ .testedRan ran tested
      · rename_i idle
        simp only [Option.some.injEq] at stepped
        exact stepped ▸ .testedIdle idle
      · simp at stepped
  | trigger =>
      simp only [loopStep, Loop.trigger] at stepped
      split at stepped
      · rename_i triggering empty
        simp only [Option.some.injEq] at stepped
        exact stepped ▸ .foundNone triggering empty
      · rename_i operation rest triggering front
        simp only [Option.some.injEq] at stepped
        exact stepped ▸ .started operation rest triggering front
      · simp at stepped
  | finish =>
      simp only [loopStep, Loop.finish] at stepped
      split at stepped
      · rename_i running
        simp only [Option.some.injEq] at stepped
        exact stepped ▸ .finished running
      · simp at stepped
  | complete index =>
      simp only [loopStep, Loop.complete] at stepped
      split at stepped
      · rename_i operation progressing pending
        simp only [Option.some.injEq] at stepped
        exact stepped ▸ .completed index operation progressing pending
      · simp at stepped
  | progressed =>
      simp only [loopStep, Loop.progressed] at stepped
      split at stepped
      · rename_i progressing
        simp only [Option.some.injEq] at stepped
        exact stepped ▸ .progressed progressing
      · simp at stepped

/-! No operation is lost, and none is run twice. -/

def Loop.operations (loop : Loop Operation) : List Operation :=
  loop.started ++ loop.queue ++ loop.inFlight

def LoopAction.posted : LoopAction Operation → List Operation
  | .post operation => [operation]
  | _ => []

theorem LoopEffect.operations (effect : LoopEffect loop action next) :
    next.operations.Perm (loop.operations ++ action.posted) := by
  cases effect with
  | posted operation => simp [Loop.operations, Loop.post, LoopAction.posted]
  | started operation rest triggering front =>
      simp [Loop.operations, LoopAction.posted, front]
  | completed index operation progressing pending =>
      obtain ⟨bound, rfl⟩ := List.getElem?_eq_some_iff.mp pending
      have parted := List.getElem_cons_eraseIdx_perm bound
      simpa [Loop.operations, LoopAction.posted] using
        (parted.append_left loop.queue).append_left loop.started
  | _ => simp [Loop.operations, Loop.stop, LoopAction.posted]

theorem LoopEffect.started_eq (effect : LoopEffect loop action next)
    (nothing : action ≠ .trigger ∨ loop.queue = []) : next.started = loop.started := by
  cases effect with
  | started operation rest triggering front => simp [front] at nothing
  | _ => rfl

theorem triggered_front {operation : Operation} {rest : List Operation}
    (front : loop.queue = operation :: rest) (triggered : loopStep loop .trigger = some next) :
    next.queue = rest ∧ next.inFlight = loop.inFlight ∧
      next.started = loop.started ++ [operation] := by
  cases loopStep_effect triggered with
  | foundNone triggering empty => simp [front] at empty
  | started other others triggering same =>
      rw [front, List.cons.injEq] at same
      obtain ⟨rfl, rfl⟩ := same
      exact ⟨rfl, rfl, rfl⟩

theorem triggered_pc (triggered : loopStep loop .trigger = some next) :
    loop.pc = .triggering := by
  cases loopStep_effect triggered with
  | foundNone triggering empty => exact triggering
  | started operation rest triggering front => exact triggering

theorem LoopEffect.ordered (effect : LoopEffect loop action next) :
    loop.started ++ loop.queue <+: next.started ++ next.queue := by
  cases effect with
  | started operation rest triggering front => simp [front]
  | completed index operation progressing pending =>
      rw [← List.append_assoc]
      exact List.prefix_append _ _
  | _ => exact List.prefix_rfl

/-! The end of the loop. -/

/-- The flag is set, and the thread is past the last place where it would run a callback. -/
def Loop.Ending (loop : Loop Operation) : Prop := loop.stopping = true ∧ loop.pc ≠ .triggering

theorem LoopEffect.ending (effect : LoopEffect loop action next) (ending : loop.Ending) :
    next.Ending ∧ next.started = loop.started := by
  obtain ⟨stopping, past⟩ := ending
  cases effect with
  | posted operation => exact ⟨⟨stopping, past⟩, rfl⟩
  | stopped => exact ⟨⟨rfl, past⟩, rfl⟩
  | testedTop top => simp [Loop.Ending, stopping]
  | testedRan ran tested => simp [Loop.Ending, stopping]
  | testedIdle idle => simp [Loop.Ending, stopping]
  | foundNone triggering empty => exact absurd triggering past
  | started operation rest triggering front => exact absurd triggering past
  | finished running => simp [Loop.Ending, stopping]
  | completed index operation progressing pending => exact ⟨⟨stopping, past⟩, rfl⟩
  | progressed progressing => simp [Loop.Ending, stopping]

/-- Once the flag is set, at most one more callback is run, and only if its thread had passed
the test before. -/
theorem run_stopping {actions : List (LoopAction Operation)} (stopping : loop.stopping = true)
    (ran : run loopStep loop actions = some final) :
    final.started = loop.started ∨ loop.pc = .triggering ∧ ∃ operation,
      loop.queue.head? = some operation ∧ final.started = loop.started ++ [operation] := by
  -- until the thread leaves its place before the callback, the queue stays as it is
  let Bounded (state : Loop Operation) : Prop :=
    (state.stopping = true ∧ state.started = loop.started ∧
      (state.pc = .triggering → loop.pc = .triggering ∧ state.queue = loop.queue)) ∨
    (state.Ending ∧ loop.pc = .triggering ∧ ∃ operation,
      loop.queue.head? = some operation ∧ state.started = loop.started ++ [operation])
  have bounded : Bounded final := by
    refine run_invariant ?_ (Or.inl ⟨stopping, rfl, fun passed => ⟨passed, rfl⟩⟩) ran
    rintro state action next (⟨stopping, same, passed⟩ | ⟨ending, passed, operation, first, grown⟩)
      stepped
    · have effect := loopStep_effect stepped
      by_cases triggering : state.pc = .triggering
      · obtain ⟨waited, unchanged⟩ := passed triggering
        cases effect with
        | started operation rest _ front =>
            refine Or.inr ⟨⟨stopping, by simp⟩, waited, operation, ?_, by rw [same]⟩
            rw [← unchanged, front, List.head?_cons]
        | completed _ _ progressing _ => simp [triggering] at progressing
        | posted _ => exact Or.inl ⟨stopping, same, fun _ => ⟨waited, unchanged⟩⟩
        | stopped => exact Or.inl ⟨rfl, same, fun _ => ⟨waited, unchanged⟩⟩
        | foundNone _ _ => exact Or.inl ⟨stopping, same, by simp⟩
        | testedTop top => simp [triggering] at top
        | testedRan _ tested => simp [triggering] at tested
        | testedIdle idle => simp [triggering] at idle
        | finished inside => simp [triggering] at inside
        | progressed progressing => simp [triggering] at progressing
      · obtain ⟨⟨still, past⟩, kept⟩ := effect.ending ⟨stopping, triggering⟩
        exact Or.inl ⟨still, kept.trans same, fun again => absurd again past⟩
    · obtain ⟨still, kept⟩ := (loopStep_effect stepped).ending ending
      exact Or.inr ⟨still, passed, operation, first, kept.trans grown⟩
  rcases bounded with ⟨_, same, _⟩ | ⟨_, passed, grown⟩
  · exact Or.inl same
  · exact Or.inr ⟨passed, grown⟩

def LoopPc.distance : LoopPc → Nat
  | .ended => 0
  | .top => 1
  | .idle => 2
  | .progressing => 2
  | .tested _ => 3
  | .running => 4
  | .triggering => 5

def LoopAction.byThread : LoopAction Operation → Bool
  | .test | .trigger | .finish | .progressed => true
  | .post _ | .stop | .complete _ => false

theorem LoopEffect.distance (effect : LoopEffect loop action next)
    (stopping : loop.stopping = true) :
    next.pc.distance + action.byThread.toNat ≤ loop.pc.distance := by
  cases effect with
  | posted | stopped | completed => exact le_rfl
  | testedTop top => simp [top, stopping, LoopPc.distance, LoopAction.byThread]
  | testedRan ran tested => simp [tested, stopping, LoopPc.distance, LoopAction.byThread]
  | testedIdle idle => simp [idle, stopping, LoopPc.distance, LoopAction.byThread]
  | foundNone triggering empty => simp [triggering, LoopPc.distance, LoopAction.byThread]
  | started operation rest triggering front =>
      simp [triggering, LoopPc.distance, LoopAction.byThread]
  | finished running => simp [running, LoopPc.distance, LoopAction.byThread]
  | progressed progressing => simp [progressing, LoopPc.distance, LoopAction.byThread]

theorem LoopEffect.stopping (effect : LoopEffect loop action next)
    (stopping : loop.stopping = true) : next.stopping = true := by
  cases effect with
  | stopped => rfl
  | _ => exact stopping

end

end EventLoop
