import Mathlib.Data.List.DropRight
import Mathlib.Data.List.TakeWhile
import Mathlib.Data.Option.Basic

/-! Text files as formatted output writes them and formatted input reads them: the
conversions `%d` and `%s` and the white space around them. -/

namespace Stdio

abbrev Text := List Char

def isSpace (char : Char) : Bool := char.toNat == 32 || (9 ≤ char.toNat && char.toNat ≤ 13)

/-- What a white-space directive leaves of the input. -/
def skipSpace (text : Text) : Text := text.dropWhile isSpace

def scanDigits (text : Text) : Option (Nat × Text) :=
  match text.takeWhile Char.isDigit with
  | [] => none
  | digits => some (Nat.ofDigitChars 10 digits 0, text.dropWhile Char.isDigit)

def scanInt (text : Text) : Option (Int × Text) :=
  match skipSpace text with
  | '-' :: rest => (scanDigits rest).map fun scanned => (-(scanned.1 : Int), scanned.2)
  | '+' :: rest => (scanDigits rest).map fun scanned => ((scanned.1 : Int), scanned.2)
  | rest => (scanDigits rest).map fun scanned => ((scanned.1 : Int), scanned.2)

def scanWord (text : Text) : Option (String × Text) :=
  match (skipSpace text).takeWhile (! isSpace ·) with
  | [] => none
  | word => some (String.ofList word, (skipSpace text).dropWhile (! isSpace ·))

def printInt (value : Int) : Text :=
  if value < 0 then '-' :: Nat.toDigits 10 value.natAbs else Nat.toDigits 10 value.natAbs

/-- What `%s` reads back whole: not empty and without white space. -/
def PlainWord (word : String) : Prop :=
  word.toList.isEmpty = false ∧ word.toList.any isSpace = false

instance (word : String) : Decidable (PlainWord word) := inferInstanceAs (Decidable (_ ∧ _))

theorem PlainWord.exists_cons {word : String} (plain : PlainWord word) :
    ∃ first others, word.toList = first :: others :=
  List.exists_cons_of_ne_nil (List.isEmpty_eq_false_iff.mp plain.1)

theorem PlainWord.solid {word : String} (plain : PlainWord word) {char : Char}
    (member : char ∈ word.toList) : isSpace char = false := by
  simpa using List.any_eq_false.mp plain.2 char member

theorem skipSpace_of_not_space {char : Char} {rest : Text} (solid : isSpace char = false) :
    skipSpace (char :: rest) = char :: rest := by
  simp [skipSpace, solid]

theorem skipSpace_skipSpace (text : Text) : skipSpace (skipSpace text) = skipSpace text := by
  exact List.dropWhile_idempotent isSpace text

theorem skipSpace_length_le (text : Text) : (skipSpace text).length ≤ text.length :=
  (List.dropWhile_sublist _).length_le

theorem takeWhile_append_stop {property : Char → Bool} {front : Text} {char : Char} {rest : Text}
    (all : ∀ other ∈ front, property other = true) (stop : property char = false) :
    (front ++ char :: rest).takeWhile property = front := by
  rw [List.takeWhile_append_of_pos all, List.takeWhile_cons_of_neg (by simp [stop]),
    List.append_nil]

theorem dropWhile_append_stop {property : Char → Bool} {front : Text} {char : Char} {rest : Text}
    (all : ∀ other ∈ front, property other = true) (stop : property char = false) :
    (front ++ char :: rest).dropWhile property = char :: rest := by
  rw [List.dropWhile_append_of_pos all, List.dropWhile_cons_of_neg (by simp [stop])]

theorem isSpace_of_isDigit {char : Char} (digit : char.isDigit = true) : isSpace char = false := by
  simp only [Char.isDigit, Bool.and_eq_true, decide_eq_true_eq] at digit
  have lower : 48 ≤ char.toNat := digit.1
  simp only [isSpace, Bool.or_eq_false_iff, beq_eq_false_iff_ne, Bool.and_eq_false_iff,
    decide_eq_false_iff_not]
  omega

theorem scanDigits_toDigits (value : Nat) {char : Char} {rest : Text}
    (stop : char.isDigit = false) :
    scanDigits (Nat.toDigits 10 value ++ char :: rest) = some (value, char :: rest) := by
  have all : ∀ digit ∈ Nat.toDigits 10 value, digit.isDigit = true :=
    fun _ member => Nat.isDigit_of_mem_toDigits (by decide) (by decide) member
  unfold scanDigits
  rw [takeWhile_append_stop all stop, dropWhile_append_stop all stop]
  split
  · rename_i empty
    exact absurd empty Nat.toDigits_ne_nil
  · rw [Nat.ofDigitChars_ten_toDigits]

theorem scanInt_printInt (value : Int) {char : Char} {rest : Text} (stop : char.isDigit = false) :
    scanInt (printInt value ++ char :: rest) = some (value, char :: rest) := by
  by_cases negative : value < 0
  · have minus : isSpace '-' = false := by decide
    simp only [printInt, if_pos negative, List.cons_append, scanInt, skipSpace_of_not_space minus,
      scanDigits_toDigits value.natAbs stop, Option.map_some]
    have magnitude : -(value.natAbs : Int) = value := by omega
    rw [magnitude]
  · have magnitude : (value.natAbs : Int) = value := by omega
    obtain ⟨digit, others, digits⟩ := List.exists_cons_of_ne_nil
      (Nat.toDigits_ne_nil (n := value.natAbs) (b := 10))
    have member : digit ∈ Nat.toDigits 10 value.natAbs := by
      rw [digits]
      exact List.mem_cons_self
    have isDigit := Nat.isDigit_of_mem_toDigits (by decide) (by decide) member
    have scanned : scanDigits (Nat.toDigits 10 value.natAbs ++ char :: rest) =
        some (value.natAbs, char :: rest) := scanDigits_toDigits value.natAbs stop
    have solid : skipSpace (digit :: (others ++ char :: rest)) = digit :: (others ++ char :: rest) :=
      skipSpace_of_not_space (isSpace_of_isDigit isDigit)
    simp only [printInt, if_neg negative, digits, List.cons_append] at scanned ⊢
    unfold scanInt
    rw [solid]
    split
    · rename_i sign _ same
      simp only [List.cons.injEq] at same
      exact absurd isDigit (by rw [same.1]; decide)
    · rename_i sign _ same
      simp only [List.cons.injEq] at same
      exact absurd isDigit (by rw [same.1]; decide)
    · rw [scanned, Option.map_some, magnitude]

theorem scanWord_append {word : String} (plain : PlainWord word) {char : Char} {rest : Text}
    (stop : isSpace char = true) :
    scanWord (word.toList ++ char :: rest) = some (word, char :: rest) := by
  obtain ⟨first, others, spelled⟩ := plain.exists_cons
  have all : ∀ other ∈ word.toList, (! isSpace other) = true := by
    intro other member
    simp [plain.solid member]
  have ends : (! isSpace char) = false := by simp [stop]
  have start : skipSpace (word.toList ++ char :: rest) = word.toList ++ char :: rest := by
    rw [spelled]
    exact skipSpace_of_not_space (plain.solid (by simp [spelled]))
  unfold scanWord
  rw [start, takeWhile_append_stop all ends, dropWhile_append_stop all ends]
  split
  · rename_i empty
    simp [spelled] at empty
  · rw [String.ofList_toList]

/-! Text that ends early. -/

theorem scanInt_of_isDigit {first : Char} {rest : Text} (digit : first.isDigit = true) :
    scanInt (first :: rest) =
      (scanDigits (first :: rest)).map fun scanned => ((scanned.1 : Int), scanned.2) := by
  unfold scanInt
  rw [skipSpace_of_not_space (isSpace_of_isDigit digit)]
  split
  · rename_i same
    rw [List.cons.injEq] at same
    exact absurd digit (by rw [same.1]; decide)
  · rename_i same
    rw [List.cons.injEq] at same
    exact absurd digit (by rw [same.1]; decide)
  · rfl

theorem scanDigits_of_all {text : Text} (all : ∀ char ∈ text, char.isDigit = true) :
    scanDigits text =
      if text = [] then none else some (Nat.ofDigitChars 10 text 0, []) := by
  have taken : text.takeWhile Char.isDigit = text := List.takeWhile_eq_self_iff.mpr all
  have dropped : text.dropWhile Char.isDigit = [] := List.dropWhile_eq_nil_iff.mpr all
  unfold scanDigits
  rw [taken, dropped]
  cases text with
  | nil => rfl
  | cons first rest => simp

theorem isDigit_of_mem_toDigits {value : Nat} {char : Char} (member : char ∈ Nat.toDigits 10 value) :
    char.isDigit = true := Nat.isDigit_of_mem_toDigits (by decide) (by decide) member

theorem scanInt_of_prefix {value : Int} {text : Text} (printed : text <+: printInt value) :
    scanInt text = none ∨ ∃ read, scanInt text = some (read, []) := by
  have digits : ∀ rest : Text, rest <+: Nat.toDigits 10 value.natAbs →
      ∀ char ∈ rest, char.isDigit = true :=
    fun rest inside char member => isDigit_of_mem_toDigits (inside.subset member)
  cases text with
  | nil => exact Or.inl rfl
  | cons first rest =>
      by_cases digit : first.isDigit = true
      · rw [scanInt_of_isDigit digit]
        unfold printInt at printed
        split at printed
        · obtain ⟨same, _⟩ := List.cons_prefix_cons.mp printed
          rw [same] at digit
          exact absurd digit (by decide)
        · rw [scanDigits_of_all (digits _ printed)]
          exact Or.inr ⟨_, rfl⟩
      · unfold printInt at printed
        split at printed
        · obtain ⟨rfl, inside⟩ := List.cons_prefix_cons.mp printed
          have minus : isSpace '-' = false := by decide
          simp only [scanInt, skipSpace_of_not_space minus, scanDigits_of_all (digits rest inside)]
          split
          · exact Or.inl rfl
          · exact Or.inr ⟨_, rfl⟩
        · exact absurd (digits _ printed first (by simp)) digit

theorem scanInt_printInt_end (value : Int) : scanInt (printInt value) = some (value, []) := by
  have all : ∀ char ∈ Nat.toDigits 10 value.natAbs, char.isDigit = true :=
    fun char member => isDigit_of_mem_toDigits member
  have scanned : scanDigits (Nat.toDigits 10 value.natAbs) = some (value.natAbs, []) := by
    rw [scanDigits_of_all all, if_neg Nat.toDigits_ne_nil, Nat.ofDigitChars_ten_toDigits]
  unfold printInt
  split
  · have minus : isSpace '-' = false := by decide
    have magnitude : -(value.natAbs : Int) = value := by omega
    simp only [scanInt, skipSpace_of_not_space minus, scanned, Option.map_some, magnitude]
  · have magnitude : (value.natAbs : Int) = value := by omega
    obtain ⟨first, rest, spelled⟩ := List.exists_cons_of_ne_nil
      (Nat.toDigits_ne_nil (n := value.natAbs) (b := 10))
    have digit : first.isDigit = true := all first (by simp [spelled])
    rw [spelled, scanInt_of_isDigit digit, ← spelled, scanned, Option.map_some, magnitude]

theorem scanWord_end {text : Text} (solid : ∀ char ∈ text, isSpace char = false)
    (nonempty : text ≠ []) : scanWord text = some (String.ofList text, []) := by
  obtain ⟨first, rest, rfl⟩ := List.exists_cons_of_ne_nil nonempty
  have all : ∀ char ∈ first :: rest, (! isSpace char) = true := by
    intro char member
    simp [solid char member]
  have start : skipSpace (first :: rest) = first :: rest :=
    skipSpace_of_not_space (solid first (by simp))
  unfold scanWord
  rw [start, List.takeWhile_eq_self_iff.mpr all, List.dropWhile_eq_nil_iff.mpr all]

/-! A successful conversion consumes input. -/

theorem scanDigits_length {text rest : Text} {value : Nat}
    (scanned : scanDigits text = some (value, rest)) : rest.length < text.length := by
  unfold scanDigits at scanned
  split at scanned
  · simp at scanned
  · rename_i nonempty
    simp only [Option.some.injEq, Prod.mk.injEq] at scanned
    have parts := congrArg List.length
      (List.takeWhile_append_dropWhile (p := Char.isDigit) (l := text))
    have front := List.length_pos_iff.mpr nonempty
    rw [List.length_append, scanned.2] at parts
    omega

theorem scanInt_length {text rest : Text} {value : Int}
    (scanned : scanInt text = some (value, rest)) : rest.length < text.length := by
  have shorter := skipSpace_length_le text
  unfold scanInt at scanned
  split at scanned
  all_goals
    rename_i solid
    rw [Option.map_eq_some_iff] at scanned
    obtain ⟨⟨magnitude, after⟩, digits, same⟩ := scanned
    simp only [Prod.mk.injEq] at same
    have consumed := scanDigits_length digits
    rw [same.2] at consumed
    try simp only [solid, List.length_cons] at shorter
    omega

theorem scanWord_length {text rest : Text} {word : String}
    (scanned : scanWord text = some (word, rest)) : rest.length ≤ text.length := by
  have shorter := skipSpace_length_le text
  unfold scanWord at scanned
  split at scanned
  · simp at scanned
  · simp only [Option.some.injEq, Prod.mk.injEq] at scanned
    rw [← scanned.2]
    exact (List.dropWhile_sublist _).length_le.trans shorter

end Stdio
