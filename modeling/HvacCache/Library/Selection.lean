import Mathlib.Data.List.Pairwise
import Mathlib.Order.Basic

/-! Taking a first item out of a pool again and again, until none is left. The pool and the
order of its items may depend on the state. -/

namespace Selection

variable {State Item : Type*} {pick : State → Item → State → Prop} {stop : State → Prop}

/-- `items` are picked one after the other, and then there is nothing to pick. -/
inductive Drained (pick : State → Item → State → Prop) (stop : State → Prop) :
    State → List Item → State → Prop
  | nil {state : State} (stopped : stop state) : Drained pick stop state [] state
  | cons {state next final : State} {item : Item} {items : List Item}
      (picked : pick state item next) (rest : Drained pick stop next items final) :
      Drained pick stop state (item :: items) final

theorem Drained.stopped {state final : State} {items : List Item}
    (drained : Drained pick stop state items final) : stop final := by
  induction drained with
  | nil stopped => exact stopped
  | cons picked rest ih => exact ih

theorem Drained.invariant {inv : State → Prop}
    (preserved : ∀ state item next, inv state → pick state item next → inv next)
    {state final : State} {items : List Item} (drained : Drained pick stop state items final)
    (initial : inv state) : inv final := by
  induction drained with
  | nil stopped => exact initial
  | cons picked rest ih => exact ih (preserved _ _ _ initial picked)

theorem exists_drained {inv : State → Prop} (size : State → Nat)
    (progress : ∀ state, inv state →
      stop state ∨ ∃ item next, pick state item next ∧ inv next ∧ size next < size state)
    {state : State} (initial : inv state) : ∃ items final, Drained pick stop state items final := by
  induction bound : size state using Nat.strongRecOn generalizing state with
  | ind limit ih =>
      rcases progress state initial with stopped | ⟨item, next, picked, kept, less⟩
      · exact ⟨[], state, .nil stopped⟩
      · obtain ⟨items, final, rest⟩ := ih (size next) (by omega) kept rfl
        exact ⟨item :: items, final, .cons picked rest⟩

/-- A pick takes the first item of the pool and only that one, and keeps the order of the
others. -/
structure PicksFirst (pool : State → Item → Prop) (before : State → Item → Item → Prop)
    (pick : State → Item → State → Prop) (stop : State → Prop) : Prop where
  member : ∀ state item next, pick state item next → pool state item
  first : ∀ state item next other, pick state item next → pool state other → other ≠ item →
    before state item other
  rest : ∀ state item next other, pick state item next →
    (pool next other ↔ pool state other ∧ other ≠ item)
  kept : ∀ state item next former latter, pick state item next → before next former latter →
    before state former latter
  empty : ∀ state item, stop state → ¬ pool state item

section
variable {pool : State → Item → Prop} {before : State → Item → Item → Prop}
  {state final : State} {items : List Item}

theorem PicksFirst.mem_iff (picks : PicksFirst pool before pick stop)
    (drained : Drained pick stop state items final) (item : Item) :
    item ∈ items ↔ pool state item := by
  classical
  induction drained with
  | nil stopped =>
      simp only [List.not_mem_nil, false_iff]
      exact picks.empty _ item stopped
  | cons picked rest ih =>
      rename_i state next final taken items
      rw [List.mem_cons, ih, picks.rest state taken next item picked]
      by_cases same : item = taken
      · simp [same, picks.member state taken next picked]
      · simp [same]

theorem PicksFirst.nodup (picks : PicksFirst pool before pick stop)
    (drained : Drained pick stop state items final) : items.Nodup := by
  induction drained with
  | nil stopped => exact List.nodup_nil
  | cons picked rest ih =>
      rename_i state next final taken items
      refine List.nodup_cons.mpr ⟨?_, ih⟩
      rw [picks.mem_iff rest, picks.rest state taken next taken picked]
      simp

theorem PicksFirst.pairwise (picks : PicksFirst pool before pick stop)
    (drained : Drained pick stop state items final) : items.Pairwise (before state) := by
  induction drained with
  | nil stopped => exact List.Pairwise.nil
  | cons picked rest ih =>
      rename_i state next final taken items
      refine List.pairwise_cons.mpr ⟨?_, ih.imp (picks.kept state taken next _ _ picked)⟩
      intro other member
      have left := (picks.rest state taken next other picked).mp
        ((picks.mem_iff rest other).mp member)
      exact picks.first state taken next other picked left.1 left.2

end

end Selection
