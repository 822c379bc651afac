import HvacCache.Library.Transition

/-! Cursors over one sequence. Each has a place of its own, and what they take is put
together. -/

namespace Cursors

open Transition

/-- A cursor takes the items after its place, or moves past them. A stray move brings as many
items as a cursor at `place` would take, whatever they are. -/
inductive Move (Cursor : Type)
  | take (cursor : Cursor) (count : Nat)
  | skip (cursor : Cursor) (count : Nat)
  | stray (place count : Nat)
deriving DecidableEq, Repr

/-- Where the cursors would stand on an endless sequence. -/
structure Places (Cursor : Type) where
  place : Cursor → Nat
  total : Nat

section
variable {Cursor Item : Type} [DecidableEq Cursor]

def Places.start : Places Cursor := { place := fun _ => 0, total := 0 }

def Places.move (places : Places Cursor) : Move Cursor → Places Cursor
  | .take cursor count => {
      place := Function.update places.place cursor (places.place cursor + count)
      total := places.total + count }
  | .skip cursor count => { places with
      place := Function.update places.place cursor (places.place cursor + count) }
  | .stray _ _ => places

def Places.step (places : Places Cursor) (move : Move Cursor) : Option (Places Cursor) :=
  some (places.move move)

def Brings (items : List Item) (places : Places Cursor) (brought : List Item) :
    Move Cursor → Prop
  | .take cursor count => brought = (items.drop (places.place cursor)).take count
  | .skip _ _ => brought = []
  | .stray place count => brought.length = ((items.drop place).take count).length

inductive Output (items : List Item) : Places Cursor → List (Move Cursor) → List Item → Prop
  | nil (places : Places Cursor) : Output items places [] []
  | cons {places : Places Cursor} {move : Move Cursor} {rest : List (Move Cursor)}
      {brought later : List Item} (brings : Brings items places brought move)
      (output : Output items (places.move move) rest later) :
      Output items places (move :: rest) (brought ++ later)

def InStep (places : Places Cursor) : Move Cursor → Prop
  | .take cursor count => 0 < count → places.place cursor = places.total
  | .skip _ _ => True
  | .stray _ count => count = 0

instance (places : Places Cursor) (move : Move Cursor) : Decidable (InStep places move) := by
  unfold InStep
  split <;> infer_instance

def Agreeing (moves : List (Move Cursor)) : Prop := Meets Places.step InStep Places.start moves

instance (moves : List (Move Cursor)) : Decidable (Agreeing moves) :=
  inferInstanceAs (Decidable (Meets _ _ _ _))

variable {items brought front : List Item} {places middle : Places Cursor} {move : Move Cursor}
  {moves : List (Move Cursor)}

theorem Brings.of_inStep (inStep : InStep places move) (brings : Brings items places brought move) :
    items.take places.total ++ brought = items.take (places.move move).total := by
  cases move with
  | skip cursor count =>
      obtain rfl : brought = [] := brings
      simp [Places.move]
  | stray place count =>
      obtain rfl : count = 0 := inStep
      have nothing : brought = [] := List.length_eq_zero_iff.mp (by simpa [Brings] using brings)
      simp [nothing, Places.move]
  | take cursor count =>
      obtain rfl : brought = (items.drop (places.place cursor)).take count := brings
      simp only [Places.move]
      by_cases nothing : count = 0
      · simp [nothing]
      · rw [inStep (by omega), List.take_add]

theorem Output.of_meets (output : Output items places moves brought)
    (met : Meets Places.step InStep places moves)
    (ran : run Places.step places moves = some middle) :
    items.take places.total ++ brought = items.take middle.total := by
  induction output with
  | nil places =>
      simp only [run, Option.some.injEq] at ran
      simp [ran]
  | cons brings output ih =>
      obtain ⟨inStep, later⟩ := met
      rw [← List.append_assoc, brings.of_inStep inStep]
      exact ih later ran

theorem run_isSome (places : Places Cursor) (moves : List (Move Cursor)) :
    ∃ final, run Places.step places moves = some final := by
  induction moves generalizing places with
  | nil => exact ⟨places, rfl⟩
  | cons move rest ih => exact ih (places.move move)

omit [DecidableEq Cursor] in
theorem exists_brings (filler : Item) (items : List Item) (places : Places Cursor)
    (move : Move Cursor) : ∃ brought, Brings items places brought move := by
  cases move with
  | take cursor count => exact ⟨_, rfl⟩
  | skip cursor count => exact ⟨[], rfl⟩
  | stray place count => exact ⟨List.replicate _ filler, List.length_replicate⟩

theorem exists_output (filler : Item) (items : List Item) (places : Places Cursor)
    (moves : List (Move Cursor)) : ∃ brought, Output items places moves brought := by
  induction moves generalizing places with
  | nil => exact ⟨[], .nil places⟩
  | cons move rest ih =>
      obtain ⟨brought, brings⟩ := exists_brings filler items places move
      obtain ⟨later, output⟩ := ih (places.move move)
      exact ⟨brought ++ later, .cons brings output⟩

theorem Output.append {rest : List (Move Cursor)} {later : List Item}
    (first : Output items places moves front)
    (ran : run Places.step places moves = some middle)
    (second : Output items middle rest later) :
    Output items places (moves ++ rest) (front ++ later) := by
  induction first with
  | nil places =>
      simp only [run, Option.some.injEq] at ran
      exact ran ▸ second
  | cons brings output ih =>
      rw [List.cons_append, List.append_assoc]
      exact .cons brings (ih ran)

theorem misplaced {near far : Item} (different : near ≠ far) {place total : Nat}
    (front : (List.replicate place near ++ [far]).take total ++ [far] <+:
      List.replicate place near ++ [far]) : place = total := by
  rcases Nat.lt_trichotomy total place with before | same | after
  · rw [List.prefix_iff_getElem?] at front
    have here := front total (by simp; omega)
    have length : ((List.replicate place near ++ [far]).take total).length = total := by
      simp
      omega
    rw [List.getElem_append_right (by omega), List.getElem?_append_left (by simpa using before)]
      at here
    simp [before] at here
    exact absurd here different
  · exact same.symm
  · have short := front.length_le
    simp only [List.length_append, List.length_take, List.length_replicate,
      List.length_singleton] at short
    omega

omit [DecidableEq Cursor] in
/-- A move out of step brings something that does not follow. -/
theorem exists_of_not_inStep {near far : Item} (different : near ≠ far) {places : Places Cursor}
    {move : Move Cursor} (refused : ¬ InStep places move) :
    ∃ items brought : List Item, Brings items places brought move ∧
      ¬ items.take places.total ++ brought <+: items := by
  cases move with
  | skip cursor count => exact absurd trivial refused
  | stray place count =>
      have positive : count ≠ 0 := refused
      refine ⟨List.replicate (place + 1) near, List.replicate (min count 1) far,
        by simp [Brings], ?_⟩
      intro front
      have member : far ∈ List.replicate (place + 1) near :=
        front.subset (by simp [positive])
      exact different (List.eq_of_mem_replicate member).symm
  | take cursor count =>
      simp only [InStep, Classical.not_imp] at refused
      obtain ⟨positive, misses⟩ := refused
      obtain ⟨fewer, rfl⟩ := Nat.exists_eq_succ_of_ne_zero (Nat.pos_iff_ne_zero.mp positive)
      refine ⟨List.replicate (places.place cursor) near ++ [far], [far], by simp [Brings], ?_⟩
      intro front
      exact misses (misplaced different front)

/-- What the moves bring, put together, is the beginning of every sequence exactly when no
cursor takes anything away from where the others have come and no stray move brings anything. -/
theorem agreeing_iff {near far : Item} (different : near ≠ far) (moves : List (Move Cursor)) :
    (∀ items brought : List Item, Output items .start moves brought → brought <+: items) ↔
      Agreeing moves := by
  constructor
  · intro front
    by_contra apart
    obtain ⟨before, move, after, middle, rfl, met, ran, refused⟩ := exists_of_not_meets apart
    obtain ⟨items, brought, brings, spoiled⟩ := exists_of_not_inStep different refused
    obtain ⟨earlier, first⟩ := exists_output near items .start before
    obtain ⟨later, second⟩ := exists_output near items (middle.move move) after
    have same := first.of_meets met ran
    simp only [Places.start, List.take_zero, List.nil_append] at same
    have whole := front items _ (first.append ran (.cons brings second))
    rw [same, ← List.append_assoc] at whole
    exact spoiled ((List.prefix_append _ _).trans whole)
  · intro agreeing items brought output
    obtain ⟨final, ran⟩ := run_isSome Places.start moves
    have all := output.of_meets agreeing ran
    simp only [Places.start, List.take_zero, List.nil_append] at all
    rw [all]
    exact List.take_prefix _ _

end

end Cursors
