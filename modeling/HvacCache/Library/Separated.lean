import Mathlib.Data.List.Infix

/-! Names written one after the other, each behind a separator, as the components of an
absolute path are. The text of a list of names can be cut at a separator only between two
of them. -/

namespace Separated

variable {Symbol : Type*} {sep : Symbol}

/-- A name is not empty and does not contain the separator. -/
def IsName (sep : Symbol) (name : List Symbol) : Prop :=
  name ≠ [] ∧ sep ∉ name

instance [DecidableEq Symbol] (name : List Symbol) : Decidable (IsName sep name) :=
  inferInstanceAs (Decidable (name ≠ [] ∧ sep ∉ name))

def written (sep : Symbol) (names : List (List Symbol)) : List Symbol :=
  names.flatMap (sep :: ·)

/-- A name that comes before `rest` ends there. -/
def Boundary (sep : Symbol) (rest : List Symbol) : Prop :=
  rest = [] ∨ rest.head? = some sep

@[simp] theorem written_nil : written sep [] = [] := by
  rfl

@[simp] theorem written_cons (name : List Symbol) (names : List (List Symbol)) :
    written sep (name :: names) = sep :: (name ++ written sep names) := by
  simp [written]

@[simp] theorem written_append (first second : List (List Symbol)) :
    written sep (first ++ second) = written sep first ++ written sep second := by
  simp [written]

theorem boundary_written_append (names : List (List Symbol)) {rest : List Symbol}
    (boundary : Boundary sep rest) : Boundary sep (written sep names ++ rest) := by
  cases names with
  | nil => simpa using boundary
  | cons name names => exact Or.inr (by simp)

theorem boundary_written (names : List (List Symbol)) : Boundary sep (written sep names) := by
  simpa using boundary_written_append names (Or.inl rfl : Boundary sep [])

theorem eq_nil_of_boundary {first second rest tail : List Symbol} (whole : sep ∉ second)
    (boundary : Boundary sep rest) (extended : second = first ++ tail) (starts : tail <+: rest) :
    tail = [] := by
  cases tail with
  | nil => rfl
  | cons symbol tail =>
      obtain ⟨remaining, rfl⟩ := starts
      have same : symbol = sep := by simpa [Boundary] using boundary
      exact absurd (by simp [extended, same]) whole

theorem name_unique {first second rest tail : List Symbol} (whole : sep ∉ first)
    (other : sep ∉ second) (boundary : Boundary sep rest) (ending : Boundary sep tail)
    (same : first ++ rest = second ++ tail) : first = second ∧ rest = tail := by
  rcases List.append_eq_append_iff.mp same with ⟨more, extended, split⟩ | ⟨more, extended, split⟩
  · have none := eq_nil_of_boundary other boundary extended ⟨tail, split.symm⟩
    simp [extended, split, none]
  · have none := eq_nil_of_boundary whole ending extended ⟨rest, split.symm⟩
    simp [extended, split, none]

theorem prefix_of_written {dir names : List (List Symbol)}
    (dirNames : ∀ name ∈ dir, IsName sep name) (valid : ∀ name ∈ names, IsName sep name)
    {rest : List Symbol} (boundary : Boundary sep rest)
    (starts : written sep names = written sep dir ++ rest) : dir <+: names := by
  induction dir generalizing names with
  | nil => exact List.nil_prefix
  | cons name dir ih =>
      cases names with
      | nil => simp at starts
      | cons first names =>
          simp only [written_cons, List.cons_append, List.append_assoc, List.cons.injEq,
            true_and] at starts
          obtain ⟨rfl, remaining⟩ := name_unique (valid first (by simp)).2
            (dirNames name (by simp)).2 (boundary_written names)
            (boundary_written_append dir boundary) starts
          rw [List.prefix_cons_inj]
          exact ih (fun name member => dirNames name (by simp [member]))
            (fun name member => valid name (by simp [member])) remaining

/-- The names of `dir` come first exactly where its text comes first and ends a name. -/
theorem prefix_iff_written {dir names : List (List Symbol)}
    (dirNames : ∀ name ∈ dir, IsName sep name) (valid : ∀ name ∈ names, IsName sep name) :
    dir <+: names ↔ ∃ rest, written sep names = written sep dir ++ rest ∧ Boundary sep rest := by
  constructor
  · rintro ⟨below, rfl⟩
    exact ⟨written sep below, written_append dir below, boundary_written below⟩
  · rintro ⟨rest, starts, boundary⟩
    exact prefix_of_written dirNames valid boundary starts

section
variable [DecidableEq Symbol]

theorem dropWhile_ne_append {name rest : List Symbol} (whole : sep ∉ name) :
    (name ++ sep :: rest).dropWhile (· ≠ sep) = sep :: rest := by
  rw [List.dropWhile_append_of_pos]
  · simp
  · intro symbol member
    simpa using ne_of_mem_of_not_mem member whole

theorem dropWhile_eq_reverse_written {names : List (List Symbol)}
    (valid : ∀ name ∈ names, IsName sep name) :
    (written sep names).reverse.dropWhile (· = sep) = (written sep names).reverse := by
  rcases List.eq_nil_or_concat names with rfl | ⟨before, last, rfl⟩
  · rfl
  · obtain ⟨named, whole⟩ := valid last (by simp)
    obtain ⟨front, symbol, rfl⟩ := (List.eq_nil_or_concat last).resolve_left named
    have other : symbol ≠ sep := by
      rintro rfl
      simp at whole
    simp [other]

end

end Separated
