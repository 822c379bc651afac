import Mathlib.Algebra.BigOperators.Finprod

/-! A store of items in tiers. What a tier holds is summed up from its items, and no tier ever
holds more than its capacity. -/

namespace TieredStore

variable {Key Tier Note : Type*} [DecidableEq Key] [DecidableEq Tier]

/-- `note` is what is remembered of an item apart from its place. -/
structure Item (Tier Note : Type*) where
  tier : Tier
  size : Nat
  note : Note

def weight (tier : Tier) : Option (Item Tier Note) → Nat
  | none => 0
  | some item => if item.tier = tier then item.size else 0

noncomputable def load (items : Key → Option (Item Tier Note)) (tier : Tier) : Nat :=
  ∑ᶠ key, weight tier (items key)

omit [DecidableEq Key] in
theorem weight_support {items : Key → Option (Item Tier Note)}
    (finite : {key | items key ≠ none}.Finite) (tier : Tier) :
    Function.HasFiniteSupport fun key => weight tier (items key) := by
  apply finite.subset
  intro key heavy missing
  apply heavy
  simp only [missing, weight]

theorem load_update {items : Key → Option (Item Tier Note)}
    (finite : {key | items key ≠ none}.Finite) (key : Key) (item : Option (Item Tier Note))
    (tier : Tier) :
    load (Function.update items key item) tier + weight tier (items key) =
      load items tier + weight tier item := by
  have changed : {other | Function.update items key item other ≠ none}.Finite := by
    apply (finite.insert key).subset
    intro other present
    by_cases same : other = key
    · exact Or.inl same
    · exact Or.inr (by simpa [same] using present)
  have before := add_finsum_cond_ne key (weight_support finite tier)
  have after := add_finsum_cond_ne key (weight_support changed tier)
  have others : (∑ᶠ (other) (_ : other ≠ key), weight tier (Function.update items key item other)) =
      ∑ᶠ (other) (_ : other ≠ key), weight tier (items other) := by
    apply finsum_congr
    intro other
    apply finsum_congr
    intro different
    rw [Function.update_of_ne different]
  rw [Function.update_self, others] at after
  unfold load
  omega

theorem load_eq_sum {items : Key → Option (Item Tier Note)} {entries : List (Key × Item Tier Note)}
    (distinct : (entries.map Prod.fst).Nodup)
    (listed : ∀ key item, (key, item) ∈ entries ↔ items key = some item) (tier : Tier) :
    load items tier = (entries.map fun entry => weight tier (some entry.2)).sum := by
  have within : (Function.support fun key => weight tier (items key)) ⊆
      ((entries.map Prod.fst).toFinset : Set Key) := by
    intro key heavy
    cases found : items key with
    | none => simp [found, weight] at heavy
    | some item =>
        simp only [List.coe_toFinset, Set.mem_ofPred_eq, List.mem_map]
        exact ⟨(key, item), (listed key item).mpr found, rfl⟩
  rw [load, finsum_eq_finsetSum_of_support_subset _ within, List.sum_toFinset _ distinct,
    List.map_map]
  congr 1
  apply List.map_congr_left
  rintro ⟨key, item⟩ member
  simp only [Function.comp, (listed key item).mp member]

structure Store (Key Tier Note : Type*) [DecidableEq Tier] where
  items : Key → Option (Item Tier Note)
  capacity : Tier → Nat
  finite : {key | items key ≠ none}.Finite
  fits : ∀ tier, load items tier ≤ capacity tier

namespace Store

def empty (capacity : Tier → Nat) : Store Key Tier Note where
  items := fun _ => none
  capacity := capacity
  finite := by simp
  fits := by simp [load, weight]

noncomputable def load (store : Store Key Tier Note) (tier : Tier) : Nat :=
  TieredStore.load store.items tier

def HasRoom (store : Store Key Tier Note) (tier : Tier) (size : Nat) : Prop :=
  store.load tier + size ≤ store.capacity tier

/-- `item` takes the place of what `key` had, if that leaves every tier within its capacity. -/
def set (store : Store Key Tier Note) (key : Key) (item : Option (Item Tier Note))
    (room : ∀ tier, store.load tier + weight tier item ≤
      store.capacity tier + weight tier (store.items key)) : Store Key Tier Note where
  items := Function.update store.items key item
  capacity := store.capacity
  finite := by
    apply (store.finite.insert key).subset
    intro other present
    by_cases same : other = key
    · exact Or.inl same
    · exact Or.inr (by simpa [same] using present)
  fits := by
    intro tier
    have changed := load_update store.finite key item tier
    have enough := room tier
    unfold load at enough
    omega

def put (store : Store Key Tier Note) (key : Key) (item : Item Tier Note)
    (free : store.items key = none) (room : store.HasRoom item.tier item.size) :
    Store Key Tier Note :=
  store.set key (some item) (by
    intro tier
    have fits := store.fits tier
    unfold HasRoom at room
    simp only [weight, free, load] at room ⊢
    split
    · rename_i same
      subst tier
      omega
    · omega)

def remove (store : Store Key Tier Note) (key : Key) : Store Key Tier Note :=
  store.set key none (by
    intro tier
    have fits := store.fits tier
    simp only [weight, load]
    omega)

def annotate (store : Store Key Tier Note) (key : Key) (item : Item Tier Note) (note : Note)
    (found : store.items key = some item) : Store Key Tier Note :=
  store.set key (some { item with note }) (by
    intro tier
    have fits := store.fits tier
    simp only [weight, found, load]
    omega)

def move (store : Store Key Tier Note) (key : Key) (item : Item Tier Note) (target : Tier)
    (found : store.items key = some item) (room : store.HasRoom target item.size) :
    Store Key Tier Note :=
  store.set key (some { item with tier := target }) (by
    intro tier
    have fits := store.fits tier
    unfold HasRoom at room
    simp only [weight, found, load] at room ⊢
    split
    · rename_i same
      subst tier
      omega
    · omega)

end Store

end TieredStore
