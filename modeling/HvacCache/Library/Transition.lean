import Mathlib.Data.List.Induction
import Mathlib.Data.Option.Basic
import Mathlib.Order.WellFounded

/-! Finite runs of a partial step function. An action resolves every choice the
environment makes, so a run is a list of actions and `none` means that some
action was not enabled. -/

namespace Transition

variable {State Action : Type*} {step : State → Action → Option State}

def run (step : State → Action → Option State) : State → List Action → Option State
  | state, [] => some state
  | state, action :: rest =>
      match step state action with
      | none => none
      | some next => run step next rest

/-- Every action of the run meets `guard` in the state it is taken from. -/
def Meets (step : State → Action → Option State) (guard : State → Action → Prop) :
    State → List Action → Prop
  | _, [] => True
  | state, action :: rest =>
      guard state action ∧
        match step state action with
        | none => True
        | some next => Meets step guard next rest

instance Meets.decidable (guard : State → Action → Prop)
    [∀ state action, Decidable (guard state action)] :
    ∀ state actions, Decidable (Meets step guard state actions)
  | _, [] => isTrue trivial
  | state, action :: rest =>
      match found : step state action with
      | none => decidable_of_iff (guard state action) (by simp [Meets, found])
      | some next =>
          have := Meets.decidable guard next rest
          decidable_of_iff (guard state action ∧ Meets step guard next rest)
            (by simp [Meets, found])

theorem run_cons (state : State) (action : Action) (rest : List Action) (final : State) :
    run step state (action :: rest) = some final ↔
      ∃ next, step state action = some next ∧ run step next rest = some final := by
  simp only [run]
  cases step state action with
  | none => simp
  | some next => simp

theorem run_append (state : State) (first second : List Action) (final : State) :
    run step state (first ++ second) = some final ↔
      ∃ middle, run step state first = some middle ∧ run step middle second = some final := by
  induction first generalizing state with
  | nil => simp [run]
  | cons action rest ih =>
      simp only [List.cons_append, run_cons, ih]
      constructor
      · rintro ⟨next, stepped, middle, reached, finished⟩
        exact ⟨middle, ⟨next, stepped, reached⟩, finished⟩
      · rintro ⟨middle, ⟨next, stepped, reached⟩, finished⟩
        exact ⟨next, stepped, middle, reached, finished⟩

theorem run_single (state : State) (action : Action) (final : State) :
    run step state [action] = some final ↔ step state action = some final := by
  rw [run_cons]
  simp [run]

theorem run_concat (start : State) (actions : List Action) (action : Action) (final : State) :
    run step start (actions ++ [action]) = some final ↔
      ∃ middle, run step start actions = some middle ∧ step middle action = some final := by
  simp only [run_append, run_single]

theorem run_at {start middle final : State} {before after : List Action} {action : Action}
    (ran : run step start (before ++ action :: after) = some final)
    (reached : run step start before = some middle) :
    ∃ next, step middle action = some next ∧ run step next after = some final := by
  obtain ⟨again, same, rest⟩ := (run_append start before _ final).mp ran
  rw [reached, Option.some.injEq] at same
  subst again
  exact (run_cons middle action after final).mp rest

/-- The invariant rule when each step may rely on a guard of its action. -/
theorem run_invariant_of_meets {guard : State → Action → Prop} {inv : State → Prop}
    (preserved : ∀ state action next, inv state → guard state action →
      step state action = some next → inv next)
    {start final : State} {actions : List Action} (initial : inv start)
    (meets : Meets step guard start actions)
    (ran : run step start actions = some final) : inv final := by
  induction actions generalizing start with
  | nil =>
      simp only [run, Option.some.injEq] at ran
      exact ran ▸ initial
  | cons action rest ih =>
      obtain ⟨next, stepped, reached⟩ := (run_cons start action rest final).mp ran
      obtain ⟨guarded, later⟩ := meets
      rw [stepped] at later
      exact ih (preserved start action next initial guarded stepped) later reached

theorem meets_of_forall {guard : State → Action → Prop} {actions : List Action}
    (all : ∀ action ∈ actions, ∀ state, guard state action) (start : State) :
    Meets step guard start actions := by
  induction actions generalizing start with
  | nil => trivial
  | cons action rest ih =>
      refine ⟨all action (by simp) start, ?_⟩
      split
      · trivial
      · exact ih (fun later member => all later (by simp [member])) _

theorem meets_append {guard : State → Action → Prop} {start middle : State}
    {first second : List Action} (before : Meets step guard start first)
    (ran : run step start first = some middle) (after : Meets step guard middle second) :
    Meets step guard start (first ++ second) := by
  induction first generalizing start with
  | nil =>
      simp only [run, Option.some.injEq] at ran
      exact ran ▸ after
  | cons action rest ih =>
      obtain ⟨next, stepped, reached⟩ := (run_cons start action rest middle).mp ran
      obtain ⟨guarded, later⟩ := before
      refine ⟨guarded, ?_⟩
      rw [stepped] at later ⊢
      exact ih later reached

theorem meets_of_append {guard : State → Action → Prop} {start : State}
    {first second : List Action} (meets : Meets step guard start (first ++ second)) :
    Meets step guard start first ∧
      ∀ middle, run step start first = some middle → Meets step guard middle second := by
  induction first generalizing start with
  | nil =>
      refine ⟨trivial, ?_⟩
      intro middle ran
      simp only [run, Option.some.injEq] at ran
      exact ran ▸ meets
  | cons action rest ih =>
      obtain ⟨guarded, later⟩ := meets
      cases stepped : step start action with
      | none => simp [Meets, run, stepped, guarded]
      | some next =>
          rw [stepped] at later
          simpa [Meets, run, stepped, guarded] using ih later

theorem exists_of_not_meets {guard : State → Action → Prop} {start : State}
    {actions : List Action} (broken : ¬ Meets step guard start actions) :
    ∃ before action after middle, actions = before ++ action :: after ∧
      Meets step guard start before ∧ run step start before = some middle ∧
      ¬ guard middle action := by
  induction actions generalizing start with
  | nil => exact absurd trivial broken
  | cons action rest ih =>
      by_cases guarded : guard start action
      · cases stepped : step start action with
        | none => simp [Meets, stepped, guarded] at broken
        | some next =>
            simp only [Meets, guarded, stepped, true_and] at broken
            obtain ⟨before, inner, after, middle, parted, met, ran, failed⟩ := ih broken
            refine ⟨action :: before, inner, after, middle, by rw [parted]; rfl, ?_, ?_, failed⟩
            · simp [Meets, stepped, guarded, met]
            · exact (run_cons start action before middle).mpr ⟨next, stepped, ran⟩
      · exact ⟨[], action, rest, start, rfl, trivial, rfl, guarded⟩

theorem meets_iff_forall {guard : State → Action → Prop} {start : State} {actions : List Action} :
    Meets step guard start actions ↔ ∀ before action after reached,
      actions = before ++ action :: after → run step start before = some reached →
      guard reached action := by
  constructor
  · intro meets before action after reached parted ran
    subst actions
    exact ((meets_of_append meets).2 reached ran).1
  · intro all
    by_contra broken
    obtain ⟨before, action, after, reached, parted, _, ran, refused⟩ := exists_of_not_meets broken
    exact refused (all before action after reached parted ran)

theorem forall_of_meets {guard : State → Action → Prop} (property : Action → Prop)
    (implied : ∀ state action, guard state action → property action) {start final : State}
    {actions : List Action} (meets : Meets step guard start actions)
    (ran : run step start actions = some final) : ∀ action ∈ actions, property action := by
  induction actions generalizing start with
  | nil => simp
  | cons action rest ih =>
      obtain ⟨next, stepped, reached⟩ := (run_cons start action rest final).mp ran
      obtain ⟨guarded, later⟩ := meets
      rw [stepped] at later
      intro other member
      rcases List.mem_cons.mp member with same | after
      · exact same ▸ implied start action guarded
      · exact ih later reached other after

theorem run_invariant {inv : State → Prop}
    (preserved : ∀ state action next, inv state → step state action = some next → inv next)
    {start final : State} {actions : List Action} (initial : inv start)
    (ran : run step start actions = some final) : inv final := by
  have meets : Meets step (fun _ _ => True) start actions :=
    meets_of_forall (fun _ _ _ => trivial) start
  exact run_invariant_of_meets
    (fun state action next holds _ stepped => preserved state action next holds stepped)
    initial meets ran

/-- The invariant rule for a property of the state and of the actions that led to it. -/
theorem run_history {inv : List Action → State → Prop} {start : State}
    (preserved : ∀ actions state action next, inv actions state →
      step state action = some next → inv (actions ++ [action]) next)
    (initial : inv [] start) {actions : List Action} {final : State}
    (ran : run step start actions = some final) : inv actions final := by
  induction actions using List.reverseRecOn generalizing final with
  | nil =>
      simp only [run, Option.some.injEq] at ran
      exact ran ▸ initial
  | append_singleton earlier action ih =>
      obtain ⟨middle, reached, last⟩ := (run_concat start earlier action final).mp ran
      exact preserved earlier middle action final (ih reached) last

theorem run_project {Other OtherAction : Type*} {other : Other → OtherAction → Option Other}
    {project : State → Other}
    (projected : ∀ state action next, step state action = some next →
      ∃ actions, run other (project state) actions = some (project next))
    {start final : State} {actions : List Action} (ran : run step start actions = some final) :
    ∃ others, run other (project start) others = some (project final) := by
  have preserved : ∀ state action next,
      (∃ others, run other (project start) others = some (project state)) →
      step state action = some next →
      ∃ others, run other (project start) others = some (project next) := by
    rintro state action next ⟨before, reached⟩ stepped
    obtain ⟨after, further⟩ := projected state action next stepped
    exact ⟨before ++ after, (run_append _ before after _).mpr ⟨_, reached, further⟩⟩
  exact run_invariant preserved ⟨[], rfl⟩ ran

/-! Reachability. -/

/-- Some run, all of whose actions meet `guard`, ends where `goal` holds. -/
def Reaches (step : State → Action → Option State) (guard : State → Action → Prop)
    (goal : State → Prop) (start : State) : Prop :=
  ∃ actions final, Meets step guard start actions ∧ run step start actions = some final ∧
    goal final

section
variable {guard : State → Action → Prop} {goal : State → Prop}

theorem Reaches.here {start : State} (done : goal start) : Reaches step guard goal start :=
  ⟨[], start, trivial, rfl, done⟩

theorem Reaches.mono {weaker : State → Action → Prop} {other : State → Prop} {start : State}
    (reaches : Reaches step guard goal start)
    (implied : ∀ state action, guard state action → weaker state action)
    (enough : ∀ state, goal state → other state) : Reaches step weaker other start := by
  obtain ⟨actions, final, meets, ran, done⟩ := reaches
  refine ⟨actions, final, ?_, ran, enough final done⟩
  rw [meets_iff_forall] at meets ⊢
  intro before action after reached parted there
  exact implied reached action (meets before action after reached parted there)

theorem Reaches.after {start next : State} {action : Action}
    (stepped : step start action = some next) (guarded : guard start action)
    (later : Reaches step guard goal next) :
    Reaches step guard goal start := by
  obtain ⟨rest, final, meets, ran, done⟩ := later
  refine ⟨action :: rest, final, ⟨guarded, ?_⟩, ?_, done⟩
  · rw [stepped]
    exact meets
  · exact (run_cons start action rest final).mpr ⟨next, stepped, ran⟩

theorem Reaches.trans {middle : State → Prop} {start : State}
    (first : Reaches step guard middle start)
    (second : ∀ state, middle state → Reaches step guard goal state) :
    Reaches step guard goal start := by
  obtain ⟨actions, state, meets, ran, reached⟩ := first
  obtain ⟨rest, final, later, finished, done⟩ := second state reached
  exact ⟨actions ++ rest, final, meets_append meets ran later,
    (run_append start actions rest final).mpr ⟨state, ran, finished⟩, done⟩

theorem reaches_of_decreasing (inv : State → Prop) (distance : State → Nat)
    (nearer : ∀ state, inv state → goal state ∨
      ∃ action next, guard state action ∧ step state action = some next ∧ inv next ∧
        distance next < distance state)
    {start : State} (initial : inv start) :
    Reaches step guard (fun final => inv final ∧ goal final) start := by
  induction bound : distance start using Nat.strongRecOn generalizing start with
  | ind size ih =>
      rcases nearer start initial with done | ⟨action, next, guarded, stepped, kept, less⟩
      · exact Reaches.here ⟨initial, done⟩
      · exact Reaches.after stepped guarded (ih (distance next) (by omega) kept rfl)

end

/-! Termination. -/

def Halted (step : State → Action → Option State) (guard : State → Action → Prop) (state : State) :
    Prop :=
  ∀ action, guard state action → step state action = none

/-- A run that never ends, all of whose actions meet `guard`. -/
def Endless (step : State → Action → Option State) (guard : State → Action → Prop)
    (start : State) : Prop :=
  ∃ states : Nat → State, states 0 = start ∧ ∀ n, ∃ action,
    guard (states n) action ∧ step (states n) action = some (states (n + 1))

theorem not_endless_of_decreasing {guard : State → Action → Prop} {Rank : Type*} [LT Rank]
    [WellFoundedLT Rank] (inv : State → Prop) (rank : State → Rank)
    (decreasing : ∀ state action next, inv state → guard state action →
      step state action = some next → inv next ∧ rank next < rank state)
    {start : State} (initial : inv start) : ¬ Endless step guard start := by
  rintro ⟨states, first, endless⟩
  have kept : ∀ n, inv (states n) := by
    intro n
    induction n with
    | zero => exact first ▸ initial
    | succ n ih =>
        obtain ⟨action, guarded, stepped⟩ := endless n
        exact (decreasing _ action _ ih guarded stepped).1
  obtain ⟨n, rises⟩ := WellFounded.not_rel_apply_succ (r := (· < ·)) (fun n => rank (states n))
  obtain ⟨action, guarded, stepped⟩ := endless n
  exact rises (decreasing _ action _ (kept n) guarded stepped).2

def spent (step : State → Action → Option State) (added : State → Action → Nat) :
    State → List Action → Nat
  | _, [] => 0
  | state, action :: rest =>
      added state action +
        match step state action with
        | none => 0
        | some next => spent step added next rest

theorem spent_mul (factor : Nat) (added : State → Action → Nat) (start : State)
    (actions : List Action) :
    spent step (fun state action => factor * added state action) start actions =
      factor * spent step added start actions := by
  induction actions generalizing start with
  | nil => rfl
  | cons action rest ih =>
      simp only [spent, Nat.mul_add]
      cases step start action with
      | none => rfl
      | some next => rw [← ih next]

/-- Where a step lowers a measure but for what it adds to it, this bounds the length of a run. -/
theorem run_length_le {guard : State → Action → Prop} {measure : State → Nat}
    {added : State → Action → Nat}
    (lowered : ∀ state action next, guard state action → step state action = some next →
      measure next < measure state + added state action)
    {start final : State} {actions : List Action} (meets : Meets step guard start actions)
    (ran : run step start actions = some final) :
    actions.length + measure final ≤ measure start + spent step added start actions := by
  induction actions generalizing start with
  | nil =>
      simp only [run, Option.some.injEq] at ran
      simp [ran, spent]
  | cons action rest ih =>
      obtain ⟨next, stepped, reached⟩ := (run_cons start action rest final).mp ran
      obtain ⟨guarded, later⟩ := meets
      rw [stepped] at later
      have less := lowered start action next guarded stepped
      have bound := ih later reached
      simp only [List.length_cons, spent, stepped]
      omega

section
variable {guard : State → Action → Prop} {measure : State → Nat}
  (decreasing : ∀ state action next, guard state action → step state action = some next →
    measure next < measure state)
include decreasing

theorem reaches_halted (start : State) :
    Reaches step guard (Halted step guard) start := by
  refine Reaches.mono (reaches_of_decreasing (fun _ => True) measure ?_ trivial)
    (fun _ _ guarded => guarded) fun _ done => done.2
  intro state _
  by_cases stuck : Halted step guard state
  · exact Or.inl stuck
  · right
    simp only [Halted, not_forall] at stuck
    obtain ⟨action, guarded, enabled⟩ := stuck
    obtain ⟨next, stepped⟩ := Option.ne_none_iff_exists'.mp enabled
    exact ⟨action, next, guarded, stepped, trivial, decreasing state action next guarded stepped⟩

end

end Transition
