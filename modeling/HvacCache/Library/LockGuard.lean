import Mathlib.Data.Option.Basic

/-! One thread and a mutex that it cannot take twice. Code of the thread runs with the mutex
held or not; it returns, ends the process, or waits for ever for the mutex that it holds
itself. -/

namespace LockGuard

variable {State Result Other : Type*}

inductive Outcome (State Result : Type*)
  | returned (result : Result) (state : State)
  | exited
  | deadlocked

/-- The first argument says whether the thread holds the mutex. -/
abbrev Code (State Result : Type*) := Bool → State → Outcome State Result

/-- Code that does not touch the mutex; `none` ends the process. -/
def plain (act : State → Option (Result × State)) : Code State Result := fun _ state =>
  match act state with
  | none => .exited
  | some (result, next) => .returned result next

def ret (result : Result) : Code State Result := plain fun state => some (result, state)

def andThen (first : Code State Result) (second : Result → Code State Other) :
    Code State Other := fun held state =>
  match first held state with
  | .returned result next => second result held next
  | .exited => .exited
  | .deadlocked => .deadlocked

def discard (code : Code State Result) : Code State Unit := andThen code fun _ => ret ()

/-- Code in the scope of a lock guard, which releases the mutex when it returns. -/
def guarded (body : Code State Result) : Code State Result := fun held state =>
  if held then .deadlocked else body true state

@[simp] theorem guarded_held (body : Code State Result) (state : State) :
    guarded body true state = .deadlocked := rfl

@[simp] theorem guarded_free (body : Code State Result) (state : State) :
    guarded body false state = body true state := rfl

theorem plain_ne_deadlocked (act : State → Option (Result × State)) (held : Bool)
    (state : State) : plain act held state ≠ .deadlocked := by
  unfold plain
  split <;> simp

theorem andThen_deadlocked {first : Code State Result} (second : Result → Code State Other)
    {held : Bool} {state : State} (stuck : first held state = .deadlocked) :
    andThen first second held state = .deadlocked := by
  simp only [andThen, stuck]

theorem discard_deadlocked (code : Code State Result) (held : Bool) (state : State) :
    discard code held state = .deadlocked ↔ code held state = .deadlocked := by
  simp only [discard, andThen, ret, plain]
  cases code held state <;> simp

def Outcome.state? : Outcome State Result → Option State
  | .returned _ state => some state
  | .exited => none
  | .deadlocked => none

@[simp] theorem state?_plain (act : State → Option (Result × State)) (held : Bool)
    (state : State) : (plain act held state).state? = (act state).map Prod.snd := by
  unfold plain
  cases act state with
  | none => rfl
  | some outcome => rfl

@[simp] theorem state?_discard (code : Code State Result) (held : Bool) (state : State) :
    (discard code held state).state? = (code held state).state? := by
  simp only [discard, andThen, ret, plain]
  cases code held state <;> rfl

end LockGuard
