import HvacCache.Library.Posix
import HvacCache.Library.Stdio

/-! Integers that the C library reads from text. All of these functions skip white space,
take one sign and the digits after it, and ignore what follows. -/

namespace Stdio

open Posix

/-- Text without digits gives 0, and a number out of range the nearest `long`. -/
def strtol (text : Text) : Int :=
  match scanInt text with
  | none => 0
  | some (value, _) => max (-2 ^ 63) (min value (2 ^ 63 - 1))

def atoi (text : Text) : Int := int32 (strtol text)

inductive ConversionError
  | invalidArgument
  | outOfRange
deriving DecidableEq, Repr

/-- `std::stoull`; a minus sign negates the number modulo `2 ^ 64`. -/
def stoull (text : Text) : Except ConversionError UInt64 :=
  match scanInt text with
  | none => .error .invalidArgument
  | some (value, _) =>
      if value.natAbs < 2 ^ 64 then .ok (UInt64.ofNat (uint64 value)) else .error .outOfRange

/-- The number that a text consists of, apart from white space. -/
def wholeInt (text : Text) : Option Int :=
  match scanInt text with
  | none => none
  | some (value, rest) => if skipSpace rest = [] then some value else none

theorem atoi_bounds (text : Text) : -2 ^ 31 ≤ atoi text ∧ atoi text < 2 ^ 31 :=
  int32_bounds (strtol text)

theorem uint32_atoi_of_nonneg {text : Text} (lower : 0 ≤ atoi text) :
    uint32 (atoi text) = (atoi text).toNat := by
  obtain ⟨_, upper⟩ := atoi_bounds text
  unfold uint32
  omega

theorem uint32_atoi_of_neg {text : Text} (negative : atoi text < 0) :
    uint32 (atoi text) = (2 ^ 32 + atoi text).toNat := by
  obtain ⟨lower, _⟩ := atoi_bounds text
  unfold uint32
  omega

theorem atoi_printInt {value : Int} (lower : -2 ^ 31 ≤ value) (upper : value < 2 ^ 31) :
    atoi (printInt value) = value := by
  have inRange : strtol (printInt value) = value := by
    simp only [strtol, scanInt_printInt_end]
    omega
  rw [atoi, inRange, int32, Int.bmod_def]
  split <;> omega

theorem wholeInt_scanned {text : Text} {value : Int} (whole : wholeInt text = some value) :
    ∃ rest, scanInt text = some (value, rest) := by
  unfold wholeInt at whole
  split at whole
  · simp at whole
  · rename_i number rest scanned
    split at whole
    · simp only [Option.some.injEq] at whole
      subst value
      exact ⟨rest, scanned⟩
    · simp at whole

theorem stoull_wholeInt_iff {text : Text} {value : Int} (whole : wholeInt text = some value) :
    (∃ converted, stoull text = .ok converted ∧ (converted.toNat : Int) = value) ↔
      0 ≤ value ∧ value < 2 ^ 64 := by
  obtain ⟨rest, scanned⟩ := wholeInt_scanned whole
  simp only [stoull, scanned]
  constructor
  · rintro ⟨converted, _, same⟩
    have bound := converted.toNat_lt
    omega
  · intro bounds
    have fits : value.natAbs < 2 ^ 64 := by omega
    refine ⟨_, if_pos fits, ?_⟩
    rw [uint64_of_nonneg bounds.1 bounds.2, UInt64.toNat_ofNat_of_lt']
    · omega
    · rw [show UInt64.size = 2 ^ 64 from rfl]
      omega

end Stdio
