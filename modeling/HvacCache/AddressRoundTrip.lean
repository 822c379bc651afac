import HvacCache.AddressFile

/-! The whole of the address file as the loop of the client reads it when no line has the
rank it looks for. An address is a C string, so it has no NUL. -/

namespace HvacCache

open Stdio

def pathMax : Nat := 4096

/-- The rank is an `int`, and the address fits its buffer together with a NUL. Storing
anything else is undefined. -/
def Storable (line : Int × String) : Prop :=
  -2 ^ 31 ≤ line.1 ∧ line.1 < 2 ^ 31 ∧ line.2.utf8ByteSize < pathMax

instance (line : Int × String) : Decidable (Storable line) :=
  inferInstanceAs (Decidable (_ ∧ _ ∧ _))

def readLines : Nat → Text → Option (List (Int × String) × Text)
  | 0, _ => none
  | fuel + 1, text =>
      match scanLine text with
      | none => some ([], text)
      | some (line, rest) =>
          if Storable line then
            (readLines fuel rest).map fun later => (line :: later.1, later.2)
          else none

def readFile (text : Text) : Option (List (Int × String) × Text) :=
  readLines (text.length + 1) text

theorem readLines_enough {fuel other : Nat} {text : Text} (enough : text.length < fuel)
    (otherEnough : text.length < other) : readLines fuel text = readLines other text := by
  induction fuel generalizing other text with
  | zero => omega
  | succ fuel ih =>
      cases other with
      | zero => omega
      | succ other =>
          simp only [readLines]
          cases scanned : scanLine text with
          | none => rfl
          | some line =>
              have shorter := scanLine_length scanned
              have same : readLines fuel line.2 = readLines other line.2 :=
                ih (by omega) (by omega)
              simp only [same]

theorem readFile_eq (text : Text) :
    readFile text =
      match scanLine text with
      | none => some ([], text)
      | some (line, rest) =>
          if Storable line then
            (readFile rest).map fun later => (line :: later.1, later.2)
          else none := by
  unfold readFile
  rw [readLines]
  split
  · rfl
  · rename_i line rest scanned
    have shorter := scanLine_length scanned
    rw [readLines_enough (by omega) (Nat.lt_succ_self rest.length)]

theorem readFile_cases {text final : Text} {lines : List (Int × String)}
    (read : readFile text = some (lines, final)) :
    (scanLine text = none ∧ lines = [] ∧ final = text) ∨
      ∃ line rest later, scanLine text = some (line, rest) ∧
        readFile rest = some (later, final) ∧ lines = line :: later := by
  rw [readFile_eq] at read
  split at read
  · rename_i stopped
    simp only [Option.some.injEq, Prod.mk.injEq] at read
    exact Or.inl ⟨stopped, read.1.symm, read.2.symm⟩
  · rename_i line rest scanned
    split at read
    · obtain ⟨⟨later, last⟩, further, same⟩ := Option.map_eq_some_iff.mp read
      simp only [Prod.mk.injEq] at same
      exact Or.inr ⟨line, rest, later, scanned, same.2 ▸ further, same.1.symm⟩
    · simp at read

theorem scanFile_of_readFile {text final : Text} {lines : List (Int × String)}
    (read : readFile text = some (lines, final)) (rank : Int) :
    scanFile text rank = firstAddress lines rank := by
  induction lines generalizing text with
  | nil =>
      rcases readFile_cases read with ⟨stopped, _⟩ | ⟨line, rest, later, _, _, parted⟩
      · rw [scanFile_eq, stopped]
        rfl
      · simp at parted
  | cons line lines ih =>
      rcases readFile_cases read with ⟨_, empty, _⟩ | ⟨first, rest, later, scanned, further, parted⟩
      · simp at empty
      · obtain ⟨rfl, rfl⟩ := List.cons.inj parted
        rw [scanFile_eq, scanned]
        simp only [ih further, firstAddress]
        by_cases same : line.1 = rank
        · simp [same]
        · rw [if_neg same, List.find?_cons_of_neg (by simp [same])]

theorem scanLine_final {text final : Text} {lines : List (Int × String)}
    (read : readFile text = some (lines, final)) : scanLine final = none := by
  induction lines generalizing text with
  | nil =>
      rcases readFile_cases read with ⟨stopped, _, same⟩ | ⟨line, rest, later, _, _, parted⟩
      · rwa [same]
      · simp at parted
  | cons line lines ih =>
      rcases readFile_cases read with ⟨_, empty, _⟩ | ⟨first, rest, later, _, further, parted⟩
      · simp at empty
      · exact ih ((List.cons.inj parted).2 ▸ further)

theorem readFile_skipSpace {text : Text} {lines : List (Int × String)}
    (read : readFile text = some (lines, [])) : readFile (skipSpace text) = some (lines, []) := by
  rw [readFile_eq, scanLine_skipSpace]
  rcases readFile_cases read with ⟨stopped, rfl, empty⟩ | ⟨line, rest, later, scanned, _⟩
  · rw [stopped, ← empty]
    rfl
  · rw [readFile_eq, scanned] at read
    rwa [scanned]

theorem readFile_render {lines : List (Int × String)} (plain : ∀ line ∈ lines, PlainWord line.2)
    (storable : ∀ line ∈ lines, Storable line) : readFile (render lines) = some (lines, []) := by
  induction lines with
  | nil => rfl
  | cons line rest ih =>
      have later := ih (fun other member => plain other (by simp [member]))
        fun other member => storable other (by simp [member])
      rw [readFile_eq, render, List.flatMap_cons, scanLine_addressLine (plain line (by simp))]
      simp only [if_pos (storable line (by simp))]
      rw [show List.flatMap addressLine rest = render rest from rfl, readFile_skipSpace later]
      rfl

/-- The loop reads back what the servers have printed, in order, and stops at the end of the
file; so a lookup finds the first line of its rank. -/
theorem address_file_round_trip (lines : List (Int × String))
    (plain : ∀ line ∈ lines, PlainWord line.2) (storable : ∀ line ∈ lines, Storable line) :
    readFile (render lines) = some (lines, []) ∧ scanLine [] = none ∧
      ∀ rank, scanFile (render lines) rank = firstAddress lines rank := by
  have read := readFile_render plain storable
  exact ⟨read, scanLine_final read, scanFile_of_readFile read⟩

theorem address_file_round_trip_digits :
    readFile (render [(-1, "0"), (7, "-3:4"), (-1, "+")]) =
        some ([(-1, "0"), (7, "-3:4"), (-1, "+")], []) ∧ scanLine [] = none ∧
      ∀ rank, scanFile (render [(-1, "0"), (7, "-3:4"), (-1, "+")]) rank =
        firstAddress [(-1, "0"), (7, "-3:4"), (-1, "+")] rank :=
  address_file_round_trip [(-1, "0"), (7, "-3:4"), (-1, "+")] (by decide) (by decide)

end HvacCache
