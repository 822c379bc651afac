import HvacCache.CachePolicy

/-! Moves of a file between the PM and the SSD tier: what `cache_policy_update_tier`
changes, and that a move can be undone by the opposite one. -/

namespace HvacCache

open Std Transition

theorem policyState_eq {state other : PolicyState} (map : state.fileMetaMap = other.fileMetaMap)
    (used : state.used = other.used) (capacity : state.capacity = other.capacity) :
    state = other := by
  have fsdaxUsed : state.fsdaxUsedBytes = other.fsdaxUsedBytes := congrFun used .fsdax
  have ssdUsed : state.ssdUsedBytes = other.ssdUsedBytes := congrFun used .ssd
  have fsdaxCapacity : state.fsdaxCapacityBytes = other.fsdaxCapacityBytes :=
    congrFun capacity .fsdax
  have ssdCapacity : state.ssdCapacityBytes = other.ssdCapacityBytes := congrFun capacity .ssd
  cases state
  cases other
  simp_all

section
variable {state next final : PolicyState} {path : String} {entry : FileMeta} {target : CacheTier}

theorem TierMove.stored (move : TierMove state path entry target next) :
    next.fileMetaMap[path]? = some { entry with currentTier := target } := by
  rw [move.map, OrderedMap.getElem?_insert_ite, if_pos rfl]

theorem TierMove.other (move : TierMove state path entry target next) {other : String}
    (different : other ≠ path) : next.fileMetaMap[other]? = state.fileMetaMap[other]? := by
  rw [move.map, OrderedMap.getElem?_insert_ite, if_neg (Ne.symm different)]

theorem TierMove.undo (move : TierMove state path entry target next)
    (back : TierMove next path { entry with currentTier := target } entry.currentTier final) :
    final = state := by
  refine policyState_eq ?_ ?_ (back.capacity.trans move.capacity)
  · apply ExtTreeMap.ext_getElem?
    intro other
    by_cases same : other = path
    · rw [same, back.stored, move.found]
    · rw [back.other same, move.other same]
  · funext tier
    have different := move.different
    rw [back.used, move.used]
    by_cases source : tier = entry.currentTier
    · subst tier
      simp [Function.update_of_ne different]
    · by_cases goal : tier = target
      · subst tier
        simp [Function.update_of_ne source]
      · simp [Function.update_of_ne source, Function.update_of_ne goal]

theorem updateTier_moves (found : state.fileMetaMap[path]? = some entry)
    (source : entry.currentTier.Managed) (different : entry.currentTier ≠ target)
    (managed : target.Managed)
    (room : state.used target + entry.size ≤ state.capacity target) :
    ∃ next, cachePolicyUpdateTier state path target = some next ∧
      TierMove state path entry target next := by
  rcases managed with rfl | rfl
  · have ssd : entry.currentTier = .ssd := source.resolve_left different
    refine ⟨moveToFsdax state path entry, ?_, moveToFsdax_moves found ssd room⟩
    simp [cachePolicyUpdateTier, found, ssd]
  · have fsdax : entry.currentTier = .fsdax := source.resolve_right different
    obtain ⟨next, returned, move⟩ := moveToSsd_moves found fsdax room
    refine ⟨next, ?_, move⟩
    simp [cachePolicyUpdateTier, found, fsdax, returned]

theorem TierMove.back (move : TierMove state path entry target next)
    (within : WithinCapacity state) :
    cachePolicyUpdateTier next path entry.currentTier = some state := by
  have managed := within.accounted.managed path entry move.found
  have restored : next.used entry.currentTier + entry.size = state.used entry.currentTier := by
    rw [move.used, Function.update_self, UInt64.sub_add_cancel]
  have room : next.used entry.currentTier + entry.size ≤ next.capacity entry.currentTier := by
    rw [restored, move.capacity]
    exact UInt64.le_iff_toNat_le.mpr (within.fits entry.currentTier)
  obtain ⟨final, returned, again⟩ := updateTier_moves move.stored move.managed
    (Ne.symm move.different) managed room
  rw [returned, move.undo again]

end

/-- `path` has changed its tier: its size is taken off one counter and added to the other,
nothing else is touched, and the opposite move leads back to the state before. -/
structure ReversibleMove (state : PolicyState) (path : String) (entry : FileMeta)
    (target : CacheTier) (next : PolicyState) : Prop where
  found : state.fileMetaMap[path]? = some entry
  tiers : entry.currentTier = .fsdax ∧ target = .ssd ∨ entry.currentTier = .ssd ∧ target = .fsdax
  stored : next.fileMetaMap[path]? = some { entry with currentTier := target }
  others : ∀ other, other ≠ path → next.fileMetaMap[other]? = state.fileMetaMap[other]?
  debited : (next.used entry.currentTier).toNat + entry.size.toNat =
    (state.used entry.currentTier).toNat
  credited : (next.used target).toNat = (state.used target).toNat + entry.size.toNat
  total : next.fsdaxUsedBytes.toNat + next.ssdUsedBytes.toNat =
    state.fsdaxUsedBytes.toNat + state.ssdUsedBytes.toNat
  capacity : next.capacity = state.capacity
  back : cachePolicyUpdateTier next path entry.currentTier = some state

theorem TierMove.reversible {state next : PolicyState} {path : String} {entry : FileMeta}
    {target : CacheTier} (move : TierMove state path entry target next)
    (within : WithinCapacity state) : ReversibleMove state path entry target next := by
  have source := within.accounted.managed path entry move.found
  have different := move.different
  have debited := move.level within entry.currentTier
  have credited := move.level within target
  simp only [if_true, Ne.symm different, if_false] at debited
  simp only [if_true, different, if_false] at credited
  have tiers : entry.currentTier = .fsdax ∧ target = .ssd ∨
      entry.currentTier = .ssd ∧ target = .fsdax := by
    rcases source with fsdax | ssd
    · exact Or.inl ⟨fsdax, move.managed.resolve_left fun goal => different (fsdax.trans goal.symm)⟩
    · exact Or.inr ⟨ssd, move.managed.resolve_right fun goal => different (ssd.trans goal.symm)⟩
  have total : next.fsdaxUsedBytes.toNat + next.ssdUsedBytes.toNat =
      state.fsdaxUsedBytes.toNat + state.ssdUsedBytes.toNat := by
    change (next.used .fsdax).toNat + (next.used .ssd).toNat =
      (state.used .fsdax).toNat + (state.used .ssd).toNat
    rcases tiers with ⟨source, goal⟩ | ⟨source, goal⟩
    · simp only [source, goal] at debited credited
      omega
    · simp only [source, goal] at debited credited
      omega
  exact ⟨move.found, tiers, move.stored, fun other => move.other, by omega, by omega, total,
    move.capacity, move.back within⟩

/-- In every state reached with sizes and capacities below `2 ^ 63`, a call that moves a
file either changes nothing or makes a move that can be undone. -/
theorem tier_moves_reversible (fsdaxCapacityBytes ssdCapacityBytes : UInt64)
    (calls : List PolicyCall) (state next : PolicyState) (path : String) (newTier : CacheTier)
    (fsdaxSmall : fsdaxCapacityBytes.toNat < 2 ^ 63) (ssdSmall : ssdCapacityBytes.toNat < 2 ^ 63)
    (sizesSmall : ∀ path sizeBytes, .addFile path sizeBytes ∈ calls → sizeBytes.toNat < 2 ^ 63)
    (ran : run policyStep (emptyPolicy fsdaxCapacityBytes ssdCapacityBytes) calls = some state)
    (returned : cachePolicyUpdateTier state path newTier = some next) :
    next = state ∨ ∃ entry, ReversibleMove state path entry newTier next := by
  obtain ⟨within, _⟩ := run_withinCapacity fsdaxSmall ssdSmall sizesSmall ran
  rcases updateTier_cases returned with same | ⟨entry, move⟩
  · exact Or.inl same
  · exact Or.inr ⟨entry, move.reversible within⟩

theorem tier_moves_reversible_mixed : ∃ state next,
    run policyStep (emptyPolicy 8 8) [.addFile "a" 6, .addFile "b" 2] = some state ∧
    cachePolicyUpdateTier state "a" .ssd = some next ∧
    (next = state ∨ ∃ entry, ReversibleMove state "a" entry .ssd next) := by
  have moves : ((run policyStep (emptyPolicy 8 8) [.addFile "a" 6, .addFile "b" 2]).bind
      fun state => cachePolicyUpdateTier state "a" .ssd).isSome = true := by decide
  obtain ⟨next, some⟩ := Option.isSome_iff_exists.mp moves
  obtain ⟨state, ran, returned⟩ := Option.bind_eq_some_iff.mp some
  refine ⟨state, next, ran, returned, tier_moves_reversible 8 8 _ state next "a" .ssd (by decide)
    (by decide) ?_ ran returned⟩
  intro path sizeBytes member
  simp only [List.mem_cons, PolicyCall.addFile.injEq, List.not_mem_nil, or_false] at member
  rcases member with ⟨_, size⟩ | ⟨_, size⟩ <;> simp [size]

end HvacCache
