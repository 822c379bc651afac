import HvacCache.Library.LockGuard
import HvacCache.Library.Transition
import Mathlib.Logic.Function.Basic

/-! Any number of threads that share state under one mutex. What a thread does while it holds
the mutex is cut into single accesses, and the other threads run between any two of them. -/

namespace CriticalSection

open LockGuard Transition

variable {State Result Call Thread : Type*}

/-- Code in the scope of a lock guard. `relock` asks for the mutex again. -/
inductive Body (State Result : Type*)
  | done (result : Result)
  | access (update : State → State) (next : State → Body State Result)
  | exit
  | relock

def Body.read {Value : Type*} (field : State → Value) (next : Value → Body State Result) :
    Body State Result := .access id fun state => next (field state)

def Body.write (update : State → State) (next : Body State Result) : Body State Result :=
  .access update fun _ => next

def Body.run : Body State Result → State → Outcome State Result
  | .done result, state => .returned result state
  | .access update next, state => (next state).run (update state)
  | .exit, _ => .exited
  | .relock, _ => .deadlocked

@[simp] theorem Body.run_done (result : Result) (state : State) :
    (Body.done result).run state = .returned result state := rfl

@[simp] theorem Body.run_exit (state : State) :
    (Body.exit : Body State Result).run state = .exited := rfl

@[simp] theorem Body.run_relock (state : State) :
    (Body.relock : Body State Result).run state = .deadlocked := rfl

@[simp] theorem Body.run_access (update : State → State) (next : State → Body State Result)
    (state : State) : (Body.access update next).run state = (next state).run (update state) := rfl

@[simp] theorem Body.run_read {Value : Type*} (field : State → Value)
    (next : Value → Body State Result) (state : State) :
    (Body.read field next).run state = (next (field state)).run state := rfl

@[simp] theorem Body.run_write (update : State → State) (next : Body State Result)
    (state : State) : (Body.write update next).run state = next.run (update state) := rfl

inductive Partway (body : Body State Result) (state : State) : Body State Result → State → Prop
  | start : Partway body state body state
  | access {update : State → State} {next : State → Body State Result} {middle : State}
      (before : Partway body state (.access update next) middle) :
      Partway body state (next middle) (update middle)

theorem Partway.run_eq {body rest : Body State Result} {state middle : State}
    (partway : Partway body state rest middle) : rest.run middle = body.run state := by
  induction partway with
  | start => rfl
  | access before ih => exact ih

inductive Progress (Call State Result : Type*)
  | idle
  | calling (call : Call)
  | inside (call : Call) (rest : Body State Result)

def Progress.call? : Progress Call State Result → Option Call
  | .idle => none
  | .calling call => some call
  | .inside call _ => some call

/-- `completed` lists the calls that have returned, in the order in which they did. -/
structure System (Thread Call State Result : Type*) where
  shared : State
  holder : Option Thread
  progress : Thread → Progress Call State Result
  completed : List (Thread × Call × Result)
  exited : Bool

def System.initial (start : State) : System Thread Call State Result := {
  shared := start
  holder := none
  progress := fun _ => .idle
  completed := []
  exited := false
}

inductive Action (Thread Call : Type*)
  | call (thread : Thread) (call : Call)
  | acquire (thread : Thread)
  | advance (thread : Thread)
deriving DecidableEq, Repr

/-- The calls made one after the other, each with the result that it has in the list. -/
def Replays (perform : Call → State → Outcome State Result) :
    State → List (Thread × Call × Result) → State → Prop
  | state, [], final => state = final
  | state, (_, call, result) :: rest, final =>
      ∃ next, perform call state = .returned result next ∧ Replays perform next rest final

def Explained {Abstract : Type*} (allows : Abstract → Call → Result → Abstract → Prop) :
    Abstract → List (Thread × Call × Result) → Abstract → Prop
  | state, [], final => state = final
  | state, (_, call, result) :: rest, final =>
      ∃ next, allows state call result next ∧ Explained allows next rest final

/-- The completed calls have led to `base`. A thread that holds the mutex has gone some way
from there, and only it is in the scope of a guard. -/
structure Excluded (code : Call → Body State Result) (start : State)
    (system : System Thread Call State Result) (base : State) : Prop where
  replays : Replays (fun call => (code call).run) start system.completed base
  free : system.holder = none → system.shared = base
  held : ∀ thread, system.holder = some thread → ∃ call rest,
    system.progress thread = .inside call rest ∧ Partway (code call) base rest system.shared
  alone : ∀ thread call rest, system.progress thread = .inside call rest →
    system.holder = some thread

structure Compliant (allowed : Thread → Call → Prop) (system : System Thread Call State Result) :
    Prop where
  running : ∀ thread call, (system.progress thread).call? = some call → allowed thread call
  completed : ∀ entry ∈ system.completed, allowed entry.1 entry.2.1

section
variable {code : Call → Body State Result} {system : System Thread Call State Result}
  {start base : State}

theorem replays_concat {perform : Call → State → Outcome State Result} {state middle final : State}
    {completed : List (Thread × Call × Result)} {thread : Thread} {call : Call} {result : Result}
    (before : Replays perform state completed middle)
    (last : perform call middle = .returned result final) :
    Replays perform state (completed ++ [(thread, call, result)]) final := by
  induction completed generalizing state with
  | nil => exact ⟨final, (show state = middle from before) ▸ last, rfl⟩
  | cons entry rest ih =>
      obtain ⟨next, returned, later⟩ := before
      exact ⟨next, returned, ih later⟩

theorem replays_invariant {perform : Call → State → Outcome State Result} {allowed : Call → Prop}
    {good : State → Prop}
    (kept : ∀ state call result next, good state → allowed call →
      perform call state = .returned result next → good next)
    {completed : List (Thread × Call × Result)} (initial : good start)
    (all : ∀ entry ∈ completed, allowed entry.2.1)
    (replays : Replays perform start completed base) : good base := by
  induction completed generalizing start with
  | nil => exact (show start = base from replays) ▸ initial
  | cons entry rest ih =>
      obtain ⟨next, returned, later⟩ := replays
      refine ih ?_ (fun other member => all other (by simp [member])) later
      exact kept start _ _ next initial (all entry (by simp)) returned

theorem Replays.explained {Abstract : Type*} {perform : Call → State → Outcome State Result}
    {allows : Abstract → Call → Result → Abstract → Prop} {allowed : Call → Prop}
    {represents : State → Abstract → Prop}
    (simulated : ∀ state abstract call result next, represents state abstract → allowed call →
      perform call state = .returned result next →
      ∃ after, allows abstract call result after ∧ represents next after)
    {completed : List (Thread × Call × Result)} {abstract : Abstract}
    (replays : Replays perform start completed base) (initial : represents start abstract)
    (all : ∀ entry ∈ completed, allowed entry.2.1) :
    ∃ final, Explained allows abstract completed final ∧ represents base final := by
  induction completed generalizing start abstract with
  | nil => exact ⟨abstract, rfl, (show start = base from replays) ▸ initial⟩
  | cons entry rest ih =>
      obtain ⟨thread, call, result⟩ := entry
      obtain ⟨next, returned, later⟩ := replays
      obtain ⟨after, step, kept⟩ :=
        simulated start abstract call result next initial (all (thread, call, result) (by simp))
          returned
      obtain ⟨final, explained, reached⟩ :=
        ih later kept fun other member => all other (by simp [member])
      exact ⟨final, ⟨after, step, explained⟩, reached⟩

theorem compliant_initial (allowed : Thread → Call → Prop) (start : State) :
    Compliant allowed (System.initial start : System Thread Call State Result) := by
  constructor
  · simp [System.initial, Progress.call?]
  · simp [System.initial]

theorem excluded_initial (code : Call → Body State Result) (start : State) :
    Excluded code start (System.initial start : System Thread Call State Result) start := by
  constructor
  · rfl
  · intro _
    rfl
  · intro thread held
    simp [System.initial] at held
  · intro thread call rest inside
    simp [System.initial] at inside

theorem Excluded.unique (excluded : Excluded code start system base) {thread other : Thread}
    {call : Call} {rest : Body State Result} (held : system.holder = some thread)
    (inside : system.progress other = .inside call rest) : other = thread := by
  have same := excluded.alone other call rest inside
  rw [held, Option.some.injEq] at same
  exact same.symm

theorem Excluded.partway (excluded : Excluded code start system base) {thread : Thread}
    {call : Call} {rest : Body State Result} (inside : system.progress thread = .inside call rest) :
    Partway (code call) base rest system.shared := by
  obtain ⟨entered, later, again, partway⟩ :=
    excluded.held thread (excluded.alone thread call rest inside)
  rw [inside, Progress.inside.injEq] at again
  rw [again.1, again.2]
  exact partway

end

variable [DecidableEq Thread]

def System.moved (system : System Thread Call State Result) (thread : Thread)
    (place : Progress Call State Result) : System Thread Call State Result :=
  { system with progress := Function.update system.progress thread place }

def System.advanced (system : System Thread Call State Result) (thread : Thread) (call : Call) :
    Body State Result → Option (System Thread Call State Result)
  | .done result =>
      some { system.moved thread .idle with
        holder := none
        completed := system.completed ++ [(thread, call, result)] }
  | .access update next =>
      some { system.moved thread (.inside call (next system.shared)) with
        shared := update system.shared }
  | .exit => some { system with exited := true }
  | .relock => none

def step (code : Call → Body State Result) (system : System Thread Call State Result)
    (action : Action Thread Call) : Option (System Thread Call State Result) :=
  if system.exited then none
  else
    match action with
    | .call thread call =>
        match system.progress thread with
        | .idle => some (system.moved thread (.calling call))
        | _ => none
    | .acquire thread =>
        match system.progress thread, system.holder with
        | .calling call, none =>
            some { system.moved thread (.inside call (code call)) with holder := some thread }
        | _, _ => none
    | .advance thread =>
        match system.progress thread with
        | .inside call rest => system.advanced thread call rest
        | _ => none

section
variable {code : Call → Body State Result} {system next : System Thread Call State Result}
  {action : Action Thread Call} {start base : State}

inductive StepCases (code : Call → Body State Result)
    (system : System Thread Call State Result) :
    Action Thread Call → System Thread Call State Result → Prop
  | call (thread : Thread) (call : Call) (outside : system.progress thread = .idle) :
      StepCases code system (.call thread call) (system.moved thread (.calling call))
  | acquire (thread : Thread) (call : Call) (waiting : system.progress thread = .calling call)
      (free : system.holder = none) :
      StepCases code system (.acquire thread)
        { system.moved thread (.inside call (code call)) with holder := some thread }
  | leave (thread : Thread) (call : Call) (result : Result)
      (inside : system.progress thread = .inside call (.done result)) :
      StepCases code system (.advance thread)
        { system.moved thread .idle with
          holder := none
          completed := system.completed ++ [(thread, call, result)] }
  | access (thread : Thread) (call : Call) (update : State → State)
      (rest : State → Body State Result)
      (inside : system.progress thread = .inside call (.access update rest)) :
      StepCases code system (.advance thread)
        { system.moved thread (.inside call (rest system.shared)) with
          shared := update system.shared }
  | exit (thread : Thread) (call : Call)
      (inside : system.progress thread = .inside call .exit) :
      StepCases code system (.advance thread) { system with exited := true }

theorem step_cases (stepped : step code system action = some next) :
    system.exited = false ∧ StepCases code system action next := by
  unfold step at stepped
  split at stepped
  · simp at stepped
  · rename_i running
    refine ⟨by simpa using running, ?_⟩
    cases action with
    | call thread call =>
        simp only at stepped
        split at stepped
        · rename_i outside
          simp only [Option.some.injEq] at stepped
          exact stepped ▸ .call thread call outside
        · simp at stepped
    | acquire thread =>
        simp only at stepped
        split at stepped
        · rename_i call waiting free
          simp only [Option.some.injEq] at stepped
          exact stepped ▸ .acquire thread call waiting free
        · simp at stepped
    | advance thread =>
        simp only at stepped
        split at stepped
        · rename_i call rest inside
          cases rest with
          | done result =>
              simp only [System.advanced, Option.some.injEq] at stepped
              exact stepped ▸ .leave thread call result inside
          | access update rest =>
              simp only [System.advanced, Option.some.injEq] at stepped
              exact stepped ▸ .access thread call update rest inside
          | exit =>
              simp only [System.advanced, Option.some.injEq] at stepped
              exact stepped ▸ .exit thread call inside
          | relock => simp [System.advanced] at stepped
        · simp at stepped

theorem Excluded.outside (excluded : Excluded code start system base) {thread : Thread}
    {place : Progress Call State Result}
    (before : ∀ call rest, system.progress thread ≠ .inside call rest)
    (after : ∀ call rest, place ≠ .inside call rest) :
    Excluded code start (system.moved thread place) base := by
  refine ⟨excluded.replays, excluded.free, ?_, ?_⟩
  · intro other held
    obtain ⟨call, rest, inside, same⟩ := excluded.held other held
    have different : other ≠ thread := by
      rintro rfl
      exact before call rest inside
    exact ⟨call, rest, by simpa [System.moved, different] using inside, same⟩
  · intro other call rest inside
    by_cases same : other = thread
    · subst other
      simp only [System.moved, Function.update_self] at inside
      exact absurd inside (after call rest)
    · simp only [System.moved, Function.update_of_ne same] at inside
      exact excluded.alone other call rest inside

theorem Excluded.step (excluded : Excluded code start system base)
    (stepped : step code system action = some next) : ∃ after, Excluded code start next after := by
  obtain ⟨_, cases⟩ := step_cases stepped
  cases cases with
  | call thread call outside =>
      refine ⟨base, excluded.outside ?_ ?_⟩
      · simp [outside]
      · simp
  | acquire thread call waiting free =>
      refine ⟨base, excluded.replays, by simp, ?_, ?_⟩
      · intro other held
        simp only [Option.some.injEq] at held
        subst other
        refine ⟨call, code call, by simp [System.moved], ?_⟩
        simp only [System.moved, excluded.free free]
        exact .start
      · intro other entered rest inside
        by_cases same : other = thread
        · rw [same]
        · simp only [System.moved, Function.update_of_ne same] at inside
          have held := excluded.alone other entered rest inside
          simp [free] at held
  | leave thread call result inside =>
      have held := excluded.alone thread call _ inside
      have same := (excluded.partway inside).run_eq.symm
      refine ⟨system.shared, replays_concat excluded.replays same, fun _ => rfl, by simp, ?_⟩
      intro other entered rest elsewhere
      by_cases own : other = thread
      · subst other
        simp [System.moved] at elsewhere
      · simp only [System.moved, Function.update_of_ne own] at elsewhere
        exact absurd (excluded.unique held elsewhere) own
  | access thread call update rest inside =>
      have held := excluded.alone thread call _ inside
      have further := (excluded.partway inside).access
      refine ⟨base, excluded.replays, ?_, ?_, ?_⟩
      · intro free
        simp [System.moved, held] at free
      · intro other holds
        simp only [System.moved, held, Option.some.injEq] at holds
        subst other
        exact ⟨call, rest system.shared, by simp [System.moved], further⟩
      · intro other entered later elsewhere
        by_cases own : other = thread
        · exact own ▸ held
        · simp only [System.moved, Function.update_of_ne own] at elsewhere
          exact excluded.alone other entered later elsewhere
  | exit thread call inside =>
      exact ⟨base, excluded.replays, excluded.free, excluded.held, excluded.alone⟩

theorem run_excluded {actions : List (Action Thread Call)}
    (ran : run (CriticalSection.step code) (System.initial start) actions = some system) :
    ∃ base, Excluded code start system base := by
  have preserved : ∀ (state : System Thread Call State Result) action next,
      (∃ base, Excluded code start state base) → CriticalSection.step code state action = some next →
      ∃ base, Excluded code start next base := by
    rintro state action next ⟨base, excluded⟩ stepped
    exact excluded.step stepped
  exact run_invariant preserved ⟨start, excluded_initial code start⟩ ran

theorem run_exited {actions : List (Action Thread Call)}
    (ran : run (CriticalSection.step code) (System.initial start) actions = some system)
    (exited : system.exited = true) :
    ∃ thread call, system.progress thread = .inside call .exit := by
  have preserved : ∀ (state : System Thread Call State Result) action next,
      (state.exited = true → ∃ thread call, state.progress thread = .inside call .exit) →
      CriticalSection.step code state action = some next →
      next.exited = true → ∃ thread call, next.progress thread = .inside call .exit := by
    intro state action next _ stepped ended
    obtain ⟨running, cases⟩ := step_cases stepped
    cases cases with
    | exit thread call inside => exact ⟨thread, call, inside⟩
    | _ => simp [System.moved, running] at ended
  refine run_invariant preserved ?_ ran exited
  simp [System.initial]

theorem run_completed {actions : List (Action Thread Call)}
    {final : System Thread Call State Result}
    (ran : run (CriticalSection.step code) system actions = some final) :
    system.completed <+: final.completed := by
  have preserved : ∀ (state : System Thread Call State Result) action next,
      system.completed <+: state.completed → CriticalSection.step code state action = some next →
      system.completed <+: next.completed := by
    intro state action next before stepped
    obtain ⟨_, cases⟩ := step_cases stepped
    cases cases with
    | leave thread call result inside => exact before.trans (List.prefix_append _ _)
    | _ => exact before
  exact run_invariant preserved (List.prefix_refl _) ran

theorem Compliant.moved {allowed : Thread → Call → Prop} (compliant : Compliant allowed system)
    {thread : Thread} {place : Progress Call State Result}
    (fine : ∀ call, place.call? = some call → allowed thread call) (other : Thread) (call : Call)
    (made : ((system.moved thread place).progress other).call? = some call) :
    allowed other call := by
  by_cases same : other = thread
  · subst other
    simp only [System.moved, Function.update_self] at made
    exact fine call made
  · simp only [System.moved, Function.update_of_ne same] at made
    exact compliant.running other call made

theorem Compliant.step {allowed : Thread → Call → Prop} (compliant : Compliant allowed system)
    (called : ∀ thread call, action = .call thread call → allowed thread call)
    (stepped : step code system action = some next) : Compliant allowed next := by
  obtain ⟨_, cases⟩ := step_cases stepped
  cases cases with
  | call thread call outside =>
      refine ⟨compliant.moved ?_, compliant.completed⟩
      intro other same
      exact Option.some.inj same ▸ called thread call rfl
  | acquire thread call waiting free =>
      refine ⟨compliant.moved ?_, compliant.completed⟩
      intro other same
      exact Option.some.inj same ▸ compliant.running thread call (by rw [waiting]; rfl)
  | leave thread call result inside =>
      refine ⟨compliant.moved (by simp [Progress.call?]), ?_⟩
      intro entry member
      rcases List.mem_append.mp member with old | new
      · exact compliant.completed entry old
      · rw [List.mem_singleton.mp new]
        exact compliant.running thread call (by rw [inside]; rfl)
  | access thread call update rest inside =>
      refine ⟨compliant.moved ?_, compliant.completed⟩
      intro other same
      exact Option.some.inj same ▸ compliant.running thread call (by rw [inside]; rfl)
  | exit thread call inside => exact ⟨compliant.running, compliant.completed⟩

theorem run_compliant {allowed : Thread → Call → Prop} {actions : List (Action Thread Call)}
    {final : System Thread Call State Result} (compliant : Compliant allowed system)
    (called : ∀ thread call, .call thread call ∈ actions → allowed thread call)
    (ran : run (CriticalSection.step code) system actions = some final) :
    Compliant allowed final := by
  have meets : Meets (CriticalSection.step code)
      (fun _ action => ∀ thread call, action = .call thread call → allowed thread call)
      system actions := by
    apply meets_of_forall
    intro action member _ thread call same
    exact called thread call (same ▸ member)
  exact run_invariant_of_meets
    (fun _ _ _ compliant called stepped => compliant.step called stepped) compliant meets ran

/-! Whether the thread that holds the mutex gives it back. -/

/-- Nobody holds the mutex, or the process has ended. -/
def System.Released (system : System Thread Call State Result) : Prop :=
  system.holder = none ∨ system.exited = true

theorem step_advance {thread : Thread} {call : Call} {rest : Body State Result}
    (running : system.exited = false) (inside : system.progress thread = .inside call rest) :
    step code system (.advance thread) = system.advanced thread call rest := by
  simp [step, running, inside]

variable (code) in
theorem reaches_released {thread : Thread} {call : Call} {rest : Body State Result}
    (running : system.exited = false) (inside : system.progress thread = .inside call rest)
    (returns : rest.run system.shared ≠ .deadlocked) :
    Reaches (CriticalSection.step code) (fun _ action => action = .advance thread)
      (fun final => final.Released ∧ (final.exited = true ∨ final.progress thread = .idle))
      system := by
  induction rest generalizing system with
  | done result =>
      refine Reaches.after (step_advance running inside) rfl (Reaches.here ⟨Or.inl rfl, Or.inr ?_⟩)
      simp [System.moved]
  | access update rest ih =>
      refine Reaches.after (step_advance running inside) rfl ?_
      apply ih system.shared
      · exact running
      · simp [System.moved]
      · exact returns
  | exit =>
      exact Reaches.after (step_advance running inside) rfl (Reaches.here ⟨Or.inr rfl, Or.inl rfl⟩)
  | relock => simp at returns

/-- A thread that is going to ask for its own mutex keeps it, whatever the others do. -/
theorem run_stuck {thread : Thread} {call : Call} {rest : Body State Result}
    {actions : List (Action Thread Call)} {final : System Thread Call State Result}
    (excluded : Excluded code start system base) (running : system.exited = false)
    (inside : system.progress thread = .inside call rest)
    (stuck : rest.run system.shared = .deadlocked)
    (ran : run (CriticalSection.step code) system actions = some final) :
    ¬ final.Released ∧ final.completed = system.completed := by
  let Waits (state : System Thread Call State Result) : Prop :=
    (∃ base, Excluded code start state base) ∧ state.exited = false ∧
      state.completed = system.completed ∧
      ∃ rest, state.progress thread = .inside call rest ∧ rest.run state.shared = .deadlocked
  have waits : Waits final := by
    refine run_invariant ?_ ⟨⟨base, excluded⟩, running, rfl, rest, inside, stuck⟩ ran
    rintro state action next ⟨⟨middle, excluded⟩, running, same, rest, inside, stuck⟩ stepped
    have held := excluded.alone thread call rest inside
    refine ⟨excluded.step stepped, ?_⟩
    obtain ⟨_, cases⟩ := step_cases stepped
    cases cases with
    | call other entered outside =>
        have different : thread ≠ other := by
          rintro rfl
          simp [inside] at outside
        exact ⟨running, same, rest, by simpa [System.moved, different] using inside, stuck⟩
    | acquire other entered waiting free => simp [held] at free
    | leave other entered result ends =>
        obtain rfl := excluded.unique held ends
        rw [inside, Progress.inside.injEq] at ends
        simp [ends.2] at stuck
    | access other entered update later further =>
        obtain rfl := excluded.unique held further
        rw [inside, Progress.inside.injEq] at further
        obtain ⟨rfl, rfl⟩ := further
        exact ⟨running, same, later state.shared, by simp [System.moved], stuck⟩
    | exit other entered ends =>
        obtain rfl := excluded.unique held ends
        rw [inside, Progress.inside.injEq] at ends
        simp [ends.2] at stuck
  obtain ⟨⟨middle, excluded⟩, running, same, rest, inside, _⟩ := waits
  refine ⟨?_, same⟩
  have held := excluded.alone thread call rest inside
  simp [System.Released, held, running]

structure Serving (code : Call → Body State Result) (allowed : Call → Prop) (good : State → Prop) :
    Prop where
  kept : ∀ state call result next, good state → allowed call →
    (code call).run state = .returned result next → good next
  returns : ∀ state call, good state → allowed call → (code call).run state ≠ .deadlocked

def NoNewCall (_ : System Thread Call State Result) (action : Action Thread Call) : Prop :=
  ∀ thread call, action ≠ .call thread call

def Over (thread : Thread) (system : System Thread Call State Result) : Prop :=
  system.exited = true ∨ system.progress thread = .idle

variable (code) in
theorem reaches_over {thread : Thread} {call : Call} {rest : Body State Result}
    (running : system.exited = false) (inside : system.progress thread = .inside call rest)
    (returns : rest.run system.shared ≠ .deadlocked) :
    Reaches (CriticalSection.step code) NoNewCall (fun final => final.Released ∧ Over thread final)
      system := by
  refine Reaches.mono (reaches_released code running inside returns) ?_ fun _ done => done
  rintro _ _ rfl other called
  simp

section
variable {allowed : Call → Prop} {good : State → Prop}

theorem Serving.reaches_of_free (serving : Serving code allowed good) (initial : good start)
    (excluded : Excluded code start system base) (compliant : Compliant (fun _ => allowed) system)
    (free : system.holder = none) (thread : Thread) :
    Reaches (CriticalSection.step code) NoNewCall (Over thread) system := by
  have fine : good base :=
    replays_invariant serving.kept initial compliant.completed excluded.replays
  by_cases exited : system.exited = true
  · exact Reaches.here (Or.inl exited)
  · have running : system.exited = false := by simpa using exited
    cases place : system.progress thread with
    | idle => exact Reaches.here (Or.inr place)
    | inside call rest =>
        have held := excluded.alone thread call rest place
        simp [free] at held
    | calling call =>
        let taken : System Thread Call State Result :=
          { system.moved thread (.inside call (code call)) with holder := some thread }
        have stepped : step code system (.acquire thread) = some taken := by
          simp [CriticalSection.step, running, place, free, taken]
        have returns : (code call).run taken.shared ≠ .deadlocked := by
          have granted := compliant.running thread call (by rw [place]; rfl)
          have same : taken.shared = base := excluded.free free
          rw [same]
          exact serving.returns base call fine granted
        have inside : taken.progress thread = .inside call (code call) := by
          simp [taken, System.moved]
        refine Reaches.after stepped (by simp [NoNewCall]) ?_
        exact Reaches.mono (reaches_over code running inside returns) (fun _ _ silent => silent)
          fun _ done => done.2

theorem Serving.reaches_over (serving : Serving code allowed good) (initial : good start)
    (excluded : ∃ base, Excluded code start system base)
    (compliant : Compliant (fun _ => allowed) system)
    (thread : Thread) :
    Reaches (CriticalSection.step code) NoNewCall (Over thread) system := by
  obtain ⟨base, excluded⟩ := excluded
  by_cases exited : system.exited = true
  · exact Reaches.here (Or.inl exited)
  · have running : system.exited = false := by simpa using exited
    cases holder : system.holder with
    | none => exact serving.reaches_of_free initial excluded compliant holder thread
    | some other =>
        obtain ⟨call, rest, inside, partway⟩ := excluded.held other holder
        have fine : good base :=
          replays_invariant serving.kept initial compliant.completed excluded.replays
        have returns : rest.run system.shared ≠ .deadlocked := by
          rw [partway.run_eq]
          exact serving.returns base call fine (compliant.running other call (by rw [inside]; rfl))
        -- The holder leaves first, and what it leaves behind is a state to start from.
        obtain ⟨actions, middle, meets, ran, released, _⟩ :=
          CriticalSection.reaches_over code running inside returns
        have preserved : ∀ (state : System Thread Call State Result) action next,
            (∃ base, Excluded code start state base) ∧ Compliant (fun _ => allowed) state →
            NoNewCall state action → CriticalSection.step code state action = some next →
            (∃ base, Excluded code start next base) ∧ Compliant (fun _ => allowed) next := by
          rintro state action next ⟨⟨before, excluded⟩, compliant⟩ silent stepped
          refine ⟨excluded.step stepped, compliant.step ?_ stepped⟩
          intro caller called same
          exact absurd same (silent caller called)
        obtain ⟨⟨after, again⟩, granted⟩ :=
          run_invariant_of_meets preserved ⟨⟨base, excluded⟩, compliant⟩ meets ran
        have left : Reaches (CriticalSection.step code) NoNewCall (fun state => state = middle)
            system := ⟨actions, middle, meets, ran, rfl⟩
        refine Reaches.trans left ?_
        rintro _ rfl
        rcases released with free | ended
        · exact serving.reaches_of_free initial again granted free thread
        · exact Reaches.here (Or.inl ended)

end

/-- The mutex can become free again unless its holder is in a call that asks for it twice. -/
theorem Excluded.released_iff (excluded : Excluded code start system base)
    (running : system.exited = false) {thread : Thread} {call : Call} {rest : Body State Result}
    (inside : system.progress thread = .inside call rest) :
    Reaches (CriticalSection.step code) (fun _ _ => True) System.Released system ↔
      (code call).run base ≠ .deadlocked := by
  rw [← (excluded.partway inside).run_eq]
  constructor
  · rintro ⟨actions, final, _, ran, released⟩ stuck
    exact (run_stuck excluded running inside stuck ran).1 released
  · intro returns
    obtain ⟨actions, final, _, ran, released, _⟩ :=
      reaches_released code running inside returns
    exact ⟨actions, final, meets_of_forall (fun _ _ _ => trivial) system, ran, released⟩

end

end CriticalSection
