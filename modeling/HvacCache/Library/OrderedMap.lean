import Std.Data.ExtTreeMap
import Mathlib.Algebra.BigOperators.Group.List.Basic
import Mathlib.Algebra.GroupWithZero.Nat
import Mathlib.Data.List.Perm.Basic
import Mathlib.Data.List.Nodup

/-! Finite maps ordered by key, with the indexing operation that inserts a
default value for a missing key, and sums over the stored entries. -/

open Std

abbrev OrderedMap (Key Value : Type*) [Ord Key] := ExtTreeMap Key Value compare

namespace OrderedMap

variable {Key Value : Type*} [Ord Key] [TransOrd Key]

/-- The value at `key` together with the map after the access, which holds a
default entry when the key was missing. -/
def index [Inhabited Value] (map : OrderedMap Key Value) (key : Key) :
    Value × OrderedMap Key Value :=
  match map[key]? with
  | some value => (value, map)
  | none => (default, map.insert key default)

theorem index_of_some [Inhabited Value] {map : OrderedMap Key Value} {key : Key} {value : Value}
    (found : map[key]? = some value) : index map key = (value, map) := by
  simp only [index, found]

theorem index_index [Inhabited Value] (map : OrderedMap Key Value) (key : Key) :
    index (index map key).2 key = index map key := by
  cases found : map[key]? with
  | some value => simp [index, found]
  | none => simp [index, found]

def total (weight : Key × Value → Nat) (map : OrderedMap Key Value) : Nat :=
  (map.toList.map weight).sum

theorem total_empty (weight : Key × Value → Nat) : total weight (∅ : OrderedMap Key Value) = 0 := by
  have empty : (∅ : OrderedMap Key Value).toList = [] := ExtTreeMap.toList_eq_nil_iff.mpr rfl
  simp [total, empty]

variable [LawfulEqOrd Key]

theorem getElem?_insert_ite (map : OrderedMap Key Value) [DecidableEq Key] (key other : Key)
    (value : Value) :
    (map.insert key value)[other]? = if key = other then some value else map[other]? := by
  rw [ExtTreeMap.getElem?_insert]
  by_cases same : key = other
  · simp [same]
  · have different : compare key other ≠ .eq := fun equal =>
      same (LawfulEqCmp.eq_of_compare equal)
    simp [same, different]

theorem getElem?_erase_ite (map : OrderedMap Key Value) [DecidableEq Key] (key other : Key) :
    (map.erase key)[other]? = if key = other then none else map[other]? := by
  rw [ExtTreeMap.getElem?_erase]
  by_cases same : key = other
  · simp [same]
  · have different : compare key other ≠ .eq := fun equal =>
      same (LawfulEqCmp.eq_of_compare equal)
    simp [same, different]

theorem found_insert {map : OrderedMap Key Value} {key other : Key} {value stored : Value}
    (found : (map.insert key value)[other]? = some stored) :
    (other = key ∧ stored = value) ∨ (other ≠ key ∧ map[other]? = some stored) := by
  classical
  rw [getElem?_insert_ite] at found
  split at found
  · rename_i same
    simp only [Option.some.injEq] at found
    exact Or.inl ⟨same.symm, found.symm⟩
  · rename_i different
    exact Or.inr ⟨Ne.symm different, found⟩

theorem found_erase {map : OrderedMap Key Value} {key other : Key} {stored : Value}
    (found : (map.erase key)[other]? = some stored) :
    other ≠ key ∧ map[other]? = some stored := by
  classical
  rw [getElem?_erase_ite] at found
  split at found
  · simp at found
  · rename_i different
    exact ⟨Ne.symm different, found⟩

theorem forall_insert {map : OrderedMap Key Value} {key : Key} {value : Value}
    (property : Key → Value → Prop)
    (all : ∀ (other : Key) (stored : Value), map[other]? = some stored → property other stored)
    (new : property key value) :
    ∀ (other : Key) (stored : Value), (map.insert key value)[other]? = some stored →
      property other stored := by
  intro other stored found
  rcases found_insert found with ⟨same, sameValue⟩ | ⟨_, old⟩
  · rw [same, sameValue]
    exact new
  · exact all other stored old

theorem nodup_toList (map : OrderedMap Key Value) : map.toList.Nodup := by
  have distinct := ExtTreeMap.distinct_keys_toList (t := map)
  refine distinct.imp ?_
  intro first second different same
  exact different (by simp [same])

theorem toList_perm_cons_erase {map : OrderedMap Key Value} {key : Key} {value : Value}
    (found : map[key]? = some value) :
    map.toList.Perm ((key, value) :: (map.erase key).toList) := by
  have fresh : (key, value) ∉ (map.erase key).toList := by
    simp [ExtTreeMap.mem_toList_iff_getElem?_eq_some]
  rw [List.perm_ext_iff_of_nodup (nodup_toList map)
    (List.nodup_cons.mpr ⟨fresh, nodup_toList _⟩)]
  rintro ⟨other, entry⟩
  classical
  simp only [List.mem_cons, ExtTreeMap.mem_toList_iff_getElem?_eq_some, getElem?_erase_ite,
    Prod.mk.injEq]
  by_cases same : key = other
  · subst other
    simp [found, eq_comm]
  · simp [same, Ne.symm same]

theorem total_of_getElem? {map : OrderedMap Key Value} {key : Key} {value : Value}
    (weight : Key × Value → Nat) (found : map[key]? = some value) :
    total weight map = weight (key, value) + total weight (map.erase key) := by
  have same := ((toList_perm_cons_erase found).map weight).sum_eq
  simpa [total] using same

theorem total_insert (weight : Key × Value → Nat) (map : OrderedMap Key Value)
    (key : Key) (value : Value) :
    total weight (map.insert key value) = weight (key, value) + total weight (map.erase key) := by
  have found : (map.insert key value)[key]? = some value := by simp
  have same : (map.insert key value).erase key = map.erase key := by
    apply ExtTreeMap.ext_getElem?
    intro other
    simp only [ExtTreeMap.getElem?_erase, ExtTreeMap.getElem?_insert]
    split <;> rfl
  rw [total_of_getElem? weight found, same]

theorem erase_of_none {map : OrderedMap Key Value} {key : Key}
    (missing : map[key]? = none) : map.erase key = map := by
  classical
  apply ExtTreeMap.ext_getElem?
  intro other
  rw [getElem?_erase_ite]
  split
  · rename_i same
    rw [← same, missing]
  · rfl

end OrderedMap
