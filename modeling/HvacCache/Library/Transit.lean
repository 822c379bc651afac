import Mathlib.Data.Option.Basic

/-! Items that are passed on from place to place: at most one item at a place, taken
from one place and put at another in a step. A key that only one place carries stays
with one place as long as a step puts down no key that some other place holds. -/

namespace Transit

variable {Place Item Key : Type*}

/-- Whatever lies somewhere after a step lay there before, unless it was put there. -/
def Flow (before after : Place → Option Item) (taken : Option Place)
    (placed : Option (Place × Item)) : Prop :=
  ∀ place item, after place = some item →
    (before place = some item ∧ some place ≠ taken) ∨ placed = some (place, item)

def UniqueBy (key : Item → Option Key) (held : Place → Option Item) : Prop :=
  ∀ first second firstItem secondItem value,
    held first = some firstItem → held second = some secondItem →
    key firstItem = some value → key secondItem = some value → first = second

theorem Flow.uniqueBy {before after : Place → Option Item} {taken : Option Place}
    {placed : Option (Place × Item)} {key : Item → Option Key}
    (flow : Flow before after taken placed) (unique : UniqueBy key before)
    (fresh : ∀ place item value, placed = some (place, item) → key item = some value →
      ∀ other otherItem, before other = some otherItem → key otherItem = some value →
        some other = taken) : UniqueBy key after := by
  intro first second firstItem secondItem value firstFound secondFound firstKey secondKey
  rcases flow first firstItem firstFound with ⟨firstOld, firstKept⟩ | firstNew
  · rcases flow second secondItem secondFound with ⟨secondOld, _⟩ | secondNew
    · exact unique first second firstItem secondItem value firstOld secondOld firstKey secondKey
    · exact absurd (fresh second secondItem value secondNew secondKey first firstItem firstOld
        firstKey) firstKept
  · rcases flow second secondItem secondFound with ⟨secondOld, secondKept⟩ | secondNew
    · exact absurd (fresh first firstItem value firstNew firstKey second secondItem secondOld
        secondKey) secondKept
    · rw [firstNew, Option.some.injEq, Prod.mk.injEq] at secondNew
      exact secondNew.1

theorem UniqueBy.gone {before after : Place → Option Item} {key : Item → Option Key}
    {place other : Place} {item otherItem : Item} {value : Key} (unique : UniqueBy key before)
    (flow : Flow before after (some place) none) (held : before place = some item)
    (keyed : key item = some value) (found : after other = some otherItem) :
    key otherItem ≠ some value := by
  intro otherKeyed
  obtain ⟨old, notTaken⟩ := (flow other otherItem found).resolve_right (by simp)
  exact notTaken (by rw [unique other place otherItem item value old held otherKeyed keyed])

/-- Whatever lay somewhere before a step still lies there, unless it was taken. -/
def Keeps (before after : Place → Option Item) (taken : Option Place) : Prop :=
  ∀ place item, before place = some item → some place ≠ taken → after place = some item

def Covered (used : Key → Prop) (key : Item → Option Key) (held : Place → Option Item) : Prop :=
  ∀ value, used value → ∃ place item, held place = some item ∧ key item = some value

/-- A step loses no key when one that comes into use is carried afterwards, as is one that was
taken from its place and stays in use. -/
theorem Keeps.covered {before after : Place → Option Item} {taken : Option Place}
    {key : Item → Option Key} {used usedAfter : Key → Prop} (keeps : Keeps before after taken)
    (covered : Covered used key before)
    (moved : ∀ value, usedAfter value →
      (used value ∧ ∀ place item, taken = some place → before place = some item →
        key item ≠ some value) ∨
      ∃ place item, after place = some item ∧ key item = some value) :
    Covered usedAfter key after := by
  intro value inUse
  rcases moved value inUse with ⟨old, elsewhere⟩ | found
  · obtain ⟨place, item, held, keyed⟩ := covered value old
    refine ⟨place, item, keeps place item held ?_, keyed⟩
    intro same
    exact elsewhere place item same.symm held keyed
  · exact found

theorem Keeps.trans {before middle after : Place → Option Item} {taken : Option Place}
    (first : Keeps before middle taken) (second : Keeps middle after none) :
    Keeps before after taken :=
  fun place item held stays => second place item (first place item held stays) (by simp)

end Transit
