import HvacCache.CachePolicyCore

/-! Byte accounting of the cache policy. The two counters are kept by hand in
every branch; `PolicyEffect` says once what a call can do to the map and the
counters, and the accounting and capacity invariants follow from it. -/

namespace HvacCache

open Std Transition

def PolicyState.used (state : PolicyState) : CacheTier → UInt64
  | .fsdax => state.fsdaxUsedBytes
  | .ssd => state.ssdUsedBytes
  | .pfs => 0
  | .unknown => 0

def PolicyState.capacity (state : PolicyState) : CacheTier → UInt64
  | .fsdax => state.fsdaxCapacityBytes
  | .ssd => state.ssdCapacityBytes
  | .pfs => 0
  | .unknown => 0

def CacheTier.Managed (tier : CacheTier) : Prop := tier = .fsdax ∨ tier = .ssd

def tierWeight (tier : CacheTier) (file : String × FileMeta) : Nat :=
  if file.2.currentTier = tier then file.2.size.toNat else 0

def tierBytes (map : OrderedMap String FileMeta) (tier : CacheTier) : Nat :=
  OrderedMap.total (tierWeight tier) map

structure TierMove (state : PolicyState) (path : String) (entry : FileMeta) (target : CacheTier)
    (next : PolicyState) : Prop where
  found : state.fileMetaMap[path]? = some entry
  different : entry.currentTier ≠ target
  managed : target.Managed
  room : state.used target + entry.size ≤ state.capacity target
  map : next.fileMetaMap = state.fileMetaMap.insert path { entry with currentTier := target }
  used : next.used = Function.update
    (Function.update state.used target (state.used target + entry.size))
    entry.currentTier (state.used entry.currentTier - entry.size)
  capacity : next.capacity = state.capacity

structure Removal (state : PolicyState) (path : String) (entry : FileMeta) (next : PolicyState) :
    Prop where
  found : state.fileMetaMap[path]? = some entry
  managed : entry.currentTier.Managed
  map : next.fileMetaMap = state.fileMetaMap.erase path
  used : next.used = Function.update state.used entry.currentTier
    (state.used entry.currentTier - entry.size)
  capacity : next.capacity = state.capacity

inductive PolicyEffect (state : PolicyState) (call : PolicyCall) (next : PolicyState) : Prop
  | unchanged (same : next = state)
  | registered (path : String) (entry : FileMeta)
      (called : call = .addFile path entry.size)
      (missing : state.fileMetaMap[path]? = none)
      (keyed : entry.path = path)
      (managed : entry.currentTier.Managed)
      (room : state.used entry.currentTier + entry.size ≤ state.capacity entry.currentTier)
      (map : next.fileMetaMap = state.fileMetaMap.insert path entry)
      (used : next.used = Function.update state.used entry.currentTier
        (state.used entry.currentTier + entry.size))
      (capacity : next.capacity = state.capacity)
  | rewritten (path : String) (entry changed : FileMeta)
      (found : state.fileMetaMap[path]? = some entry)
      (samePath : changed.path = entry.path)
      (sameTier : changed.currentTier = entry.currentTier)
      (sameSize : changed.size = entry.size)
      (map : next.fileMetaMap = state.fileMetaMap.insert path changed)
      (used : next.used = state.used)
      (capacity : next.capacity = state.capacity)
  | moved (path : String) (entry : FileMeta) (target : CacheTier)
      (move : TierMove state path entry target next)
  | removed (path : String) (entry : FileMeta) (removal : Removal state path entry next)

theorem addFile_effect (state : PolicyState) (path : String) (sizeBytes : UInt64) :
    PolicyEffect state (.addFile path sizeBytes) (cachePolicyAddFile state path sizeBytes) := by
  unfold cachePolicyAddFile
  by_cases registered : state.fileMetaMap[path]?.isSome
  · simp only [registered, if_true]
    exact .unchanged rfl
  · have missing : state.fileMetaMap[path]? = none := by simpa using registered
    simp only [registered, Bool.false_eq_true, if_false]
    split
    · rename_i room
      refine .registered path (newFileMeta path sizeBytes .fsdax) rfl missing rfl (Or.inl rfl)
        room rfl ?_ rfl
      funext tier
      cases tier <;> rfl
    · split
      · rename_i room
        refine .registered path (newFileMeta path sizeBytes .ssd) rfl missing rfl (Or.inr rfl)
          room rfl ?_ rfl
        funext tier
        cases tier <;> rfl
      · exact .unchanged rfl

theorem updateAccess_effect (state : PolicyState) (path : String) {call : PolicyCall} :
    PolicyEffect state call (cachePolicyUpdateAccess state path) := by
  unfold cachePolicyUpdateAccess
  cases found : state.fileMetaMap[path]? with
  | none => exact .unchanged rfl
  | some entry =>
      exact .rewritten path entry { entry with accessCount := entry.accessCount + 1 } found
        rfl rfl rfl rfl rfl rfl

theorem moveToSsd_moves {state : PolicyState} {path : String} {entry : FileMeta}
    (found : state.fileMetaMap[path]? = some entry) (tier : entry.currentTier = .fsdax)
    (room : state.ssdUsedBytes + entry.size ≤ state.ssdCapacityBytes) :
    ∃ next, moveToSsd state path entry = some next ∧ TierMove state path entry .ssd next := by
  simp only [moveToSsd, if_pos tier, if_pos room]
  refine ⟨_, rfl, found, by simp [tier], Or.inr rfl, room, rfl, ?_, rfl⟩
  funext other
  rw [tier]
  cases other <;> rfl

theorem moveToFsdax_moves {state : PolicyState} {path : String} {entry : FileMeta}
    (found : state.fileMetaMap[path]? = some entry) (tier : entry.currentTier = .ssd)
    (room : state.fsdaxUsedBytes + entry.size ≤ state.fsdaxCapacityBytes) :
    TierMove state path entry .fsdax (moveToFsdax state path entry) := by
  simp only [moveToFsdax, if_pos tier, if_pos room]
  refine ⟨found, by simp [tier], Or.inl rfl, room, rfl, ?_, rfl⟩
  funext other
  rw [tier]
  cases other <;> rfl

theorem moveToSsd_cases {state next : PolicyState} {path : String} {entry : FileMeta}
    (found : state.fileMetaMap[path]? = some entry)
    (moved : moveToSsd state path entry = some next) :
    next = state ∨ TierMove state path entry .ssd next := by
  by_cases tier : entry.currentTier = .fsdax
  · by_cases room : state.ssdUsedBytes + entry.size ≤ state.ssdCapacityBytes
    · obtain ⟨after, returned, move⟩ := moveToSsd_moves found tier room
      rw [moved, Option.some.injEq] at returned
      exact Or.inr (returned ▸ move)
    · simp [moveToSsd, tier, room] at moved
  · simp only [moveToSsd, if_neg tier, Option.some.injEq] at moved
    exact Or.inl moved.symm

theorem moveToFsdax_cases {state : PolicyState} {path : String} {entry : FileMeta}
    (found : state.fileMetaMap[path]? = some entry) :
    moveToFsdax state path entry = state ∨
      TierMove state path entry .fsdax (moveToFsdax state path entry) := by
  by_cases tier : entry.currentTier = .ssd
  · by_cases room : state.fsdaxUsedBytes + entry.size ≤ state.fsdaxCapacityBytes
    · exact Or.inr (moveToFsdax_moves found tier room)
    · simp [moveToFsdax, room]
  · simp [moveToFsdax, tier]

theorem updateTier_cases {state next : PolicyState} {path : String} {newTier : CacheTier}
    (returned : cachePolicyUpdateTier state path newTier = some next) :
    next = state ∨ ∃ entry, TierMove state path entry newTier next := by
  unfold cachePolicyUpdateTier at returned
  cases found : state.fileMetaMap[path]? with
  | none =>
      simp only [found, Option.some.injEq] at returned
      exact Or.inl returned.symm
  | some entry =>
      simp only [found] at returned
      split at returned
      · simp only [Option.some.injEq] at returned
        exact Or.inl returned.symm
      · cases newTier with
        | ssd => exact (moveToSsd_cases found returned).imp_right fun move => ⟨entry, move⟩
        | fsdax =>
            simp only [Option.some.injEq] at returned
            subst next
            exact (moveToFsdax_cases found).imp_right fun move => ⟨entry, move⟩
        | pfs =>
            simp only [Option.some.injEq] at returned
            exact Or.inl returned.symm
        | unknown =>
            simp only [Option.some.injEq] at returned
            exact Or.inl returned.symm

theorem setOpenState_effect {state next : PolicyState} {path : String} {isOpen : Bool}
    {call : PolicyCall} (returned : cachePolicySetOpenState state path isOpen = some next) :
    PolicyEffect state call next := by
  unfold cachePolicySetOpenState at returned
  cases found : state.fileMetaMap[path]? with
  | none => simp [found] at returned
  | some entry =>
      simp only [found, Option.some.injEq] at returned
      subst next
      exact .rewritten path entry { entry with isOpen } found rfl rfl rfl rfl rfl rfl

theorem removeFile_removal {state next : PolicyState} {path : String}
    (managed : ∀ (entry : FileMeta), state.fileMetaMap[path]? = some entry →
      entry.currentTier.Managed)
    (returned : cachePolicyRemoveFile state path = some next) :
    ∃ entry, Removal state path entry next := by
  unfold cachePolicyRemoveFile at returned
  cases found : state.fileMetaMap[path]? with
  | none => simp [found] at returned
  | some entry =>
      simp only [found] at returned
      rcases managed entry found with tier | tier
      · simp only [tier, Option.some.injEq] at returned
        subst next
        refine ⟨entry, found, Or.inl tier, rfl, ?_, rfl⟩
        funext other
        rw [tier]
        cases other <;> rfl
      · simp only [tier, Option.some.injEq] at returned
        subst next
        refine ⟨entry, found, Or.inr tier, rfl, ?_, rfl⟩
        funext other
        rw [tier]
        cases other <;> rfl

theorem removeFile_map {state next : PolicyState} {path : String}
    (returned : cachePolicyRemoveFile state path = some next) :
    next.fileMetaMap = state.fileMetaMap.erase path := by
  unfold cachePolicyRemoveFile at returned
  split at returned
  · simp at returned
  · split at returned
    all_goals
      simp only [Option.some.injEq] at returned
      subst next
      rfl

theorem removeFile_isSome {state : PolicyState} {path : String} :
    (cachePolicyRemoveFile state path).isSome = state.fileMetaMap[path]?.isSome := by
  unfold cachePolicyRemoveFile
  split
  · rename_i missing
    simp [missing]
  · rename_i entry found
    cases tier : entry.currentTier <;> simp [found]

theorem victimScan_keeps {map : OrderedMap String FileMeta}
    {found : OrderedMap String FileMeta × String}
    {file : String × FileMeta} (listed : map[file.1]? = some file.2)
    (same : found.1 = map) (known : found.2 = "" ∨ map[found.2]?.isSome) :
    (victimScan found file).1 = map ∧
      ((victimScan found file).2 = "" ∨ map[(victimScan found file).2]?.isSome) := by
  unfold victimScan
  split
  · by_cases none : found.2 = ""
    · simp [none, same, listed]
    · obtain ⟨entry, current⟩ := Option.isSome_iff_exists.mp (known.resolve_left none)
      have lookup : OrderedMap.index found.1 found.2 = (entry, map) := by
        rw [same]
        exact OrderedMap.index_of_some current
      simp only [none, if_false, lookup]
      split
      · simp [listed]
      · simp [current]
  · exact ⟨same, known⟩

theorem foldl_victimScan_keeps {map : OrderedMap String FileMeta} (files : List (String × FileMeta))
    (listed : ∀ file ∈ files, map[file.1]? = some file.2)
    (found : OrderedMap String FileMeta × String)
    (same : found.1 = map) (known : found.2 = "" ∨ map[found.2]?.isSome) :
    (files.foldl victimScan found).1 = map ∧
      ((files.foldl victimScan found).2 = "" ∨ map[(files.foldl victimScan found).2]?.isSome) := by
  induction files generalizing found with
  | nil => exact ⟨same, known⟩
  | cons file rest ih =>
      obtain ⟨keptMap, keptVictim⟩ := victimScan_keeps (listed file (by simp)) same known
      exact ih (fun later member => listed later (by simp [member])) _ keptMap keptVictim

theorem selectVictim_keeps (state : PolicyState) :
    (cachePolicySelectVictimForEviction state).2 = state ∧
      ((cachePolicySelectVictimForEviction state).1 = "" ∨
        state.fileMetaMap[(cachePolicySelectVictimForEviction state).1]?.isSome) := by
  have listed : ∀ file ∈ state.fileMetaMap.toList, state.fileMetaMap[file.1]? = some file.2 := by
    intro file member
    exact ExtTreeMap.mem_toList_iff_getElem?_eq_some.mp member
  obtain ⟨sameMap, known⟩ := foldl_victimScan_keeps _ listed (state.fileMetaMap, "") rfl
    (Or.inl rfl)
  refine ⟨?_, known⟩
  simp only [cachePolicySelectVictimForEviction, sameMap]

theorem evictIfNeeded_effect {state next : PolicyState} {code : Int} {call : PolicyCall}
    (managed : ∀ (path : String) (entry : FileMeta), state.fileMetaMap[path]? = some entry →
      entry.currentTier.Managed)
    (returned : cachePolicyEvictIfNeeded state = some (code, next)) :
    PolicyEffect state call next := by
  unfold cachePolicyEvictIfNeeded at returned
  split at returned
  · simp only [Option.some.injEq, Prod.mk.injEq] at returned
    exact .unchanged returned.2.symm
  · simp only [(selectVictim_keeps state).1] at returned
    split at returned
    · simp only [Option.some.injEq, Prod.mk.injEq] at returned
      exact .unchanged returned.2.symm
    · cases removal : cachePolicyRemoveFile state (cachePolicySelectVictimForEviction state).1 with
      | none => simp [removal] at returned
      | some after =>
          simp only [removal, Option.some.injEq, Prod.mk.injEq] at returned
          obtain ⟨_, same⟩ := returned
          subst next
          obtain ⟨entry, completed⟩ := removeFile_removal (managed _) removal
          exact .removed _ entry completed

theorem policyStep_effect {state next : PolicyState} {call : PolicyCall}
    (managed : ∀ (path : String) (entry : FileMeta), state.fileMetaMap[path]? = some entry →
      entry.currentTier.Managed)
    (returned : policyStep state call = some next) : PolicyEffect state call next := by
  cases call with
  | addFile path sizeBytes =>
      simp only [policyStep, Option.some.injEq] at returned
      exact returned ▸ addFile_effect state path sizeBytes
  | updateAccess path =>
      simp only [policyStep, Option.some.injEq] at returned
      exact returned ▸ updateAccess_effect state path
  | updateTier path newTier =>
      rcases updateTier_cases returned with same | ⟨entry, move⟩
      · exact .unchanged same
      · exact .moved path entry newTier move
  | setOpenState path isOpen => exact setOpenState_effect returned
  | removeFile path =>
      obtain ⟨entry, removal⟩ := removeFile_removal (managed path) returned
      exact .removed path entry removal
  | evictIfNeeded =>
      simp only [policyStep, Option.map_eq_some_iff] at returned
      obtain ⟨⟨code, after⟩, evicted, same⟩ := returned
      exact same ▸ evictIfNeeded_effect managed evicted

/-! Sums over the map after one change. -/

theorem tierBytes_insert (map : OrderedMap String FileMeta) (path : String) (entry : FileMeta)
    (tier : CacheTier) :
    tierBytes (map.insert path entry) tier =
      (if entry.currentTier = tier then entry.size.toNat else 0) + tierBytes (map.erase path) tier :=
  OrderedMap.total_insert (tierWeight tier) map path entry

theorem tierBytes_of_found {map : OrderedMap String FileMeta} {path : String} {entry : FileMeta}
    (found : map[path]? = some entry) (tier : CacheTier) :
    tierBytes map tier =
      (if entry.currentTier = tier then entry.size.toNat else 0) + tierBytes (map.erase path) tier :=
  OrderedMap.total_of_getElem? (tierWeight tier) found

/-- The counters agree with the map modulo `2 ^ 64`, and every registered file is
stored under its own path in one of the two managed tiers. -/
structure Accounted (state : PolicyState) : Prop where
  used : ∀ tier, (state.used tier).toNat = tierBytes state.fileMetaMap tier % 2 ^ 64
  keyed : ∀ (path : String) (entry : FileMeta), state.fileMetaMap[path]? = some entry →
    entry.path = path
  managed : ∀ (path : String) (entry : FileMeta), state.fileMetaMap[path]? = some entry →
    entry.currentTier.Managed

theorem accounted_empty (fsdaxCapacityBytes ssdCapacityBytes : UInt64) :
    Accounted (emptyPolicy fsdaxCapacityBytes ssdCapacityBytes) := by
  refine ⟨?_, ?_, ?_⟩
  · intro tier
    cases tier <;> simp [emptyPolicy, PolicyState.used, tierBytes, OrderedMap.total_empty]
  · intro path entry found
    simp [emptyPolicy] at found
  · intro path entry found
    simp [emptyPolicy] at found

theorem Accounted.insert {state next : PolicyState} (accounted : Accounted state) {path : String}
    {entry : FileMeta} (map : next.fileMetaMap = state.fileMetaMap.insert path entry)
    (keyed : entry.path = path) (managed : entry.currentTier.Managed)
    (used : ∀ tier, (next.used tier).toNat = tierBytes next.fileMetaMap tier % 2 ^ 64) :
    Accounted next := by
  refine ⟨used, ?_, ?_⟩
  · rw [map]
    exact OrderedMap.forall_insert (fun path (entry : FileMeta) => entry.path = path)
      accounted.keyed keyed
  · rw [map]
    exact OrderedMap.forall_insert (fun _ (entry : FileMeta) => entry.currentTier.Managed)
      accounted.managed managed

theorem TierMove.accounted {state next : PolicyState} {path : String} {entry : FileMeta}
    {target : CacheTier} (move : TierMove state path entry target next)
    (accounted : Accounted state) : Accounted next := by
  obtain ⟨found, different, managed, room, map, used, capacity⟩ := move
  refine accounted.insert map (accounted.keyed path entry found) managed ?_
  intro tier
  have before := accounted.used tier
  have bound := entry.size.toNat_lt
  rw [tierBytes_of_found found] at before
  rw [used, map, tierBytes_insert]
  by_cases source : tier = entry.currentTier
  · subst tier
    simp only [Function.update_self, UInt64.toNat_sub, Ne.symm different, if_false, if_true]
      at before ⊢
    omega
  · by_cases goal : tier = target
    · subst tier
      simp only [Function.update_of_ne source, Function.update_self, UInt64.toNat_add,
        Ne.symm source, if_false, if_true] at before ⊢
      omega
    · simp only [Function.update_of_ne source, Function.update_of_ne goal, Ne.symm source,
        Ne.symm goal, if_false] at before ⊢
      exact before

theorem Removal.accounted {state next : PolicyState} {path : String} {entry : FileMeta}
    (removal : Removal state path entry next) (accounted : Accounted state) : Accounted next := by
  obtain ⟨found, managed, map, used, capacity⟩ := removal
  refine ⟨?_, ?_, ?_⟩
  · intro tier
    have before := accounted.used tier
    have bound := entry.size.toNat_lt
    rw [tierBytes_of_found found] at before
    rw [used, map]
    by_cases source : tier = entry.currentTier
    · subst tier
      simp only [Function.update_self, UInt64.toNat_sub, if_true] at before ⊢
      omega
    · simp only [Function.update_of_ne source, Ne.symm source, if_false] at before ⊢
      omega
  · intro other stored located
    rw [map] at located
    exact accounted.keyed other stored (OrderedMap.found_erase located).2
  · intro other stored located
    rw [map] at located
    exact accounted.managed other stored (OrderedMap.found_erase located).2

theorem PolicyEffect.accounted {state next : PolicyState} {call : PolicyCall}
    (effect : PolicyEffect state call next)
    (accounted : Accounted state) : Accounted next := by
  cases effect with
  | unchanged same => exact same ▸ accounted
  | registered path entry called missing keyed managed room map used capacity =>
      refine accounted.insert map keyed managed ?_
      intro tier
      have before := accounted.used tier
      rw [used, map, tierBytes_insert, OrderedMap.erase_of_none missing]
      by_cases same : entry.currentTier = tier
      · subst tier
        simp only [Function.update_self, UInt64.toNat_add, if_true]
        omega
      · simp only [Function.update_of_ne (Ne.symm same), same, if_false]
        omega
  | rewritten path entry changed found samePath sameTier sameSize map used capacity =>
      have keyed := samePath.trans (accounted.keyed path entry found)
      refine accounted.insert map keyed (sameTier ▸ accounted.managed path entry found) ?_
      intro tier
      have before := accounted.used tier
      rw [tierBytes_of_found found] at before
      rw [used, map, tierBytes_insert, sameTier, sameSize]
      exact before
  | moved path entry target move => exact move.accounted accounted
  | removed path entry removal => exact removal.accounted accounted

theorem policyStep_accounted (state : PolicyState) (call : PolicyCall) (next : PolicyState)
    (accounted : Accounted state) (returned : policyStep state call = some next) :
    Accounted next :=
  (policyStep_effect accounted.managed returned).accounted accounted

/-- Over every run that does not exit, each counter is the sum of the sizes in its
tier modulo `2 ^ 64`, entries are stored under their own path, and no entry is
outside the two managed tiers. -/
theorem policy_accounting (fsdaxCapacityBytes ssdCapacityBytes : UInt64) (calls : List PolicyCall)
    (state : PolicyState)
    (ran : run policyStep (emptyPolicy fsdaxCapacityBytes ssdCapacityBytes) calls = some state) :
    state.fsdaxUsedBytes.toNat = tierBytes state.fileMetaMap .fsdax % 2 ^ 64 ∧
    state.ssdUsedBytes.toNat = tierBytes state.fileMetaMap .ssd % 2 ^ 64 ∧
    ∀ (path : String) (entry : FileMeta), state.fileMetaMap[path]? = some entry →
      entry.path = path ∧ entry.currentTier ≠ .pfs ∧ entry.currentTier ≠ .unknown := by
  have accounted : Accounted state :=
    run_invariant policyStep_accounted (accounted_empty fsdaxCapacityBytes ssdCapacityBytes) ran
  refine ⟨accounted.used .fsdax, accounted.used .ssd, ?_⟩
  intro path entry found
  refine ⟨accounted.keyed path entry found, ?_⟩
  rcases accounted.managed path entry found with tier | tier
  · simp [tier]
  · simp [tier]

def mixedCalls : List PolicyCall := [
  .addFile "a" 6,
  .addFile "b" 7,
  .addFile "c" 9,
  .addFile "a" 1,
  .updateTier "b" .fsdax,
  .updateAccess "a",
  .setOpenState "a" false,
  .removeFile "b",
  .updateTier "a" .ssd,
  .evictIfNeeded
]

theorem policy_accounting_mixed : ∃ state,
    run policyStep (emptyPolicy 8 8) mixedCalls = some state ∧
    state.fsdaxUsedBytes.toNat = tierBytes state.fileMetaMap .fsdax % 2 ^ 64 ∧
    state.ssdUsedBytes.toNat = tierBytes state.fileMetaMap .ssd % 2 ^ 64 ∧
    ∀ (path : String) (entry : FileMeta), state.fileMetaMap[path]? = some entry →
      entry.path = path ∧ entry.currentTier ≠ .pfs ∧ entry.currentTier ≠ .unknown := by
  have returns : (run policyStep (emptyPolicy 8 8) mixedCalls).isSome = true := by decide
  obtain ⟨state, ran⟩ := Option.isSome_iff_exists.mp returns
  exact ⟨state, ran, policy_accounting 8 8 mixedCalls state ran⟩

/-! Sizes and capacities below `2 ^ 63`: no addition or subtraction wraps. -/

structure WithinCapacity (state : PolicyState) : Prop where
  accounted : Accounted state
  exact : ∀ tier, (state.used tier).toNat = tierBytes state.fileMetaMap tier
  fits : ∀ tier, (state.used tier).toNat ≤ (state.capacity tier).toNat
  capacitySmall : ∀ tier, (state.capacity tier).toNat < 2 ^ 63
  sizeSmall : ∀ (path : String) (entry : FileMeta), state.fileMetaMap[path]? = some entry →
    entry.size.toNat < 2 ^ 63

theorem withinCapacity_empty {fsdaxCapacityBytes ssdCapacityBytes : UInt64}
    (fsdaxSmall : fsdaxCapacityBytes.toNat < 2 ^ 63) (ssdSmall : ssdCapacityBytes.toNat < 2 ^ 63) :
    WithinCapacity (emptyPolicy fsdaxCapacityBytes ssdCapacityBytes) := by
  refine ⟨accounted_empty _ _, ?_, ?_, ?_, ?_⟩
  · intro tier
    cases tier <;> simp [emptyPolicy, PolicyState.used, tierBytes, OrderedMap.total_empty]
  · intro tier
    cases tier <;> simp [emptyPolicy, PolicyState.used]
  · intro tier
    cases tier with
    | fsdax => exact fsdaxSmall
    | ssd => exact ssdSmall
    | pfs => simp [PolicyState.capacity]
    | unknown => simp [PolicyState.capacity]
  · intro path entry found
    simp [emptyPolicy] at found

theorem WithinCapacity.size_le_used {state : PolicyState} (within : WithinCapacity state)
    {path : String} {entry : FileMeta} (found : state.fileMetaMap[path]? = some entry) :
    entry.size.toNat ≤ (state.used entry.currentTier).toNat := by
  have total := within.exact entry.currentTier
  rw [tierBytes_of_found found] at total
  simp only [if_true] at total
  omega

theorem toNat_add_of_room {used size capacity : UInt64} (fits : used.toNat ≤ capacity.toNat)
    (capacitySmall : capacity.toNat < 2 ^ 63) (sizeSmall : size.toNat < 2 ^ 63)
    (room : used + size ≤ capacity) :
    (used + size).toNat = used.toNat + size.toNat ∧ used.toNat + size.toNat ≤ capacity.toNat := by
  have sum := UInt64.toNat_add used size
  have bound := UInt64.le_iff_toNat_le.mp room
  omega

theorem toNat_sub_of_le {used size : UInt64} (enough : size.toNat ≤ used.toNat) :
    (used - size).toNat = used.toNat - size.toNat := by
  exact UInt64.toNat_sub_of_le used size (UInt64.le_iff_toNat_le.mpr enough)

theorem TierMove.level {state next : PolicyState} {path : String} {entry : FileMeta}
    {target : CacheTier} (move : TierMove state path entry target next)
    (within : WithinCapacity state) (tier : CacheTier) :
    (next.used tier).toNat + (if entry.currentTier = tier then entry.size.toNat else 0) =
      (if target = tier then entry.size.toNat else 0) + (state.used tier).toNat := by
  have enough := within.size_le_used move.found
  have sums := toNat_add_of_room (within.fits target) (within.capacitySmall target)
    (within.sizeSmall path entry move.found) move.room
  have rest := toNat_sub_of_le enough
  have different := move.different
  rw [move.used]
  by_cases source : tier = entry.currentTier
  · subst tier
    simp only [Function.update_self, Ne.symm different, if_true, if_false]
    omega
  · by_cases goal : tier = target
    · subst tier
      simp only [Function.update_of_ne source, Function.update_self, Ne.symm source,
        if_true, if_false]
      omega
    · simp [Function.update_of_ne source, Function.update_of_ne goal, Ne.symm source, Ne.symm goal]

theorem Removal.level {state next : PolicyState} {path : String} {entry : FileMeta}
    (removal : Removal state path entry next) (within : WithinCapacity state) (tier : CacheTier) :
    (next.used tier).toNat + (if entry.currentTier = tier then entry.size.toNat else 0) =
      (state.used tier).toNat := by
  have enough := within.size_le_used removal.found
  have rest := toNat_sub_of_le enough
  rw [removal.used]
  by_cases source : tier = entry.currentTier
  · subst tier
    simp only [Function.update_self, if_true]
    omega
  · simp [Function.update_of_ne source, Ne.symm source]

theorem TierMove.withinCapacity {state next : PolicyState} {path : String} {entry : FileMeta}
    {target : CacheTier} (move : TierMove state path entry target next)
    (within : WithinCapacity state) : WithinCapacity next := by
  have accounted := move.accounted within.accounted
  have level := move.level within
  obtain ⟨found, different, managed, room, map, used, capacity⟩ := move
  have sizeSmall := within.sizeSmall path entry found
  have room := toNat_add_of_room (within.fits target) (within.capacitySmall target) sizeSmall room
  refine ⟨accounted, ?_, ?_, ?_, ?_⟩
  · intro tier
    have before := within.exact tier
    have after := level tier
    rw [tierBytes_of_found found] at before
    rw [map, tierBytes_insert]
    simp only
    omega
  · intro tier
    have after := level tier
    have fits := within.fits tier
    rw [capacity]
    by_cases goal : target = tier
    · subst tier
      simp only [different, if_true, if_false] at after
      omega
    · simp only [goal, if_false] at after
      omega
  · rw [capacity]
    exact within.capacitySmall
  · rw [map]
    exact OrderedMap.forall_insert (fun _ (entry : FileMeta) => entry.size.toNat < 2 ^ 63)
      within.sizeSmall sizeSmall

theorem Removal.withinCapacity {state next : PolicyState} {path : String} {entry : FileMeta}
    (removal : Removal state path entry next) (within : WithinCapacity state) :
    WithinCapacity next := by
  have accounted := removal.accounted within.accounted
  have level := removal.level within
  obtain ⟨found, managed, map, used, capacity⟩ := removal
  refine ⟨accounted, ?_, ?_, ?_, ?_⟩
  · intro tier
    have before := within.exact tier
    have after := level tier
    rw [tierBytes_of_found found] at before
    rw [map]
    omega
  · intro tier
    have after := level tier
    have fits := within.fits tier
    rw [capacity]
    omega
  · rw [capacity]
    exact within.capacitySmall
  · intro other stored located
    rw [map] at located
    exact within.sizeSmall other stored (OrderedMap.found_erase located).2

def SmallRequest (call : PolicyCall) : Prop :=
  ∀ path sizeBytes, call = .addFile path sizeBytes → sizeBytes.toNat < 2 ^ 63

theorem PolicyEffect.withinCapacity {state next : PolicyState} {call : PolicyCall}
    (effect : PolicyEffect state call next) (within : WithinCapacity state)
    (small : SmallRequest call) : WithinCapacity next := by
  have accounted := effect.accounted within.accounted
  cases effect with
  | unchanged same => exact same ▸ within
  | registered path entry called missing keyed managed room map used capacity =>
      have sizeSmall := small path entry.size called
      have sums := toNat_add_of_room (within.fits entry.currentTier)
        (within.capacitySmall entry.currentTier) sizeSmall room
      have level : ∀ tier, (next.used tier).toNat =
          (if entry.currentTier = tier then entry.size.toNat else 0) + (state.used tier).toNat := by
        intro tier
        rw [used]
        by_cases same : entry.currentTier = tier
        · subst tier
          simp only [Function.update_self, if_true]
          omega
        · simp [Function.update_of_ne (Ne.symm same), same]
      refine ⟨accounted, ?_, ?_, ?_, ?_⟩
      · intro tier
        rw [level, within.exact, map, tierBytes_insert, OrderedMap.erase_of_none missing]
      · intro tier
        rw [level, capacity]
        have fits := within.fits tier
        split
        · rename_i same
          subst tier
          omega
        · omega
      · rw [capacity]
        exact within.capacitySmall
      · rw [map]
        exact OrderedMap.forall_insert (fun _ (entry : FileMeta) => entry.size.toNat < 2 ^ 63)
          within.sizeSmall sizeSmall
  | rewritten path entry changed found samePath sameTier sameSize map used capacity =>
      refine ⟨accounted, ?_, ?_, ?_, ?_⟩
      · intro tier
        have before := within.exact tier
        rw [tierBytes_of_found found] at before
        rw [used, map, tierBytes_insert, sameTier, sameSize]
        exact before
      · rw [used, capacity]
        exact within.fits
      · rw [capacity]
        exact within.capacitySmall
      · rw [map]
        exact OrderedMap.forall_insert (fun _ (entry : FileMeta) => entry.size.toNat < 2 ^ 63)
          within.sizeSmall (sameSize ▸ within.sizeSmall path entry found)
  | moved path entry target move => exact move.withinCapacity within
  | removed path entry removal => exact removal.withinCapacity within

theorem PolicyEffect.capacity_eq {state next : PolicyState} {call : PolicyCall}
    (effect : PolicyEffect state call next) : next.capacity = state.capacity := by
  cases effect with
  | unchanged same => rw [same]
  | registered path entry called missing keyed managed room map used capacity => exact capacity
  | rewritten path entry changed found samePath sameTier sameSize map used capacity =>
      exact capacity
  | moved path entry target move => exact move.capacity
  | removed path entry removal => exact removal.capacity

/-- Every decrement of a counter made from `state` is a subtraction of natural
numbers: the counter held at least what was taken from it. -/
structure ExactDebits (state : PolicyState) : Prop where
  removeFile : ∀ path next, cachePolicyRemoveFile state path = some next →
    ∃ entry, state.fileMetaMap[path]? = some entry ∧
      entry.size ≤ state.used entry.currentTier ∧
      (next.used entry.currentTier).toNat =
        (state.used entry.currentTier).toNat - entry.size.toNat
  updateTier : ∀ path newTier next, cachePolicyUpdateTier state path newTier = some next →
    next = state ∨ ∃ entry, state.fileMetaMap[path]? = some entry ∧
      entry.size ≤ state.used entry.currentTier ∧
      (next.used entry.currentTier).toNat =
        (state.used entry.currentTier).toNat - entry.size.toNat ∧
      (next.used newTier).toNat = (state.used newTier).toNat + entry.size.toNat

theorem WithinCapacity.exactDebits {state : PolicyState} (within : WithinCapacity state) :
    ExactDebits state := by
  constructor
  · intro path next returned
    obtain ⟨entry, removal⟩ := removeFile_removal (within.accounted.managed path) returned
    have enough := within.size_le_used removal.found
    have level := removal.level within entry.currentTier
    refine ⟨entry, removal.found, UInt64.le_iff_toNat_le.mpr enough, ?_⟩
    simp only [if_true] at level
    omega
  · intro path newTier next returned
    refine (updateTier_cases returned).imp_right ?_
    rintro ⟨entry, move⟩
    have enough := within.size_le_used move.found
    have source := move.level within entry.currentTier
    have goal := move.level within newTier
    refine ⟨entry, move.found, UInt64.le_iff_toNat_le.mpr enough, ?_, ?_⟩
    · simp only [if_true, Ne.symm move.different, if_false] at source
      omega
    · simp only [if_true, move.different, if_false] at goal
      omega

theorem WithinCapacity.evictIfNeeded {state : PolicyState} (within : WithinCapacity state) :
    cachePolicyEvictIfNeeded state = some (0, state) := by
  have fits : state.fsdaxUsedBytes ≤ state.fsdaxCapacityBytes :=
    UInt64.le_iff_toNat_le.mpr (within.fits .fsdax)
  simp [cachePolicyEvictIfNeeded, fits]

theorem run_withinCapacity {fsdaxCapacityBytes ssdCapacityBytes : UInt64} {calls : List PolicyCall}
    {state : PolicyState} (fsdaxSmall : fsdaxCapacityBytes.toNat < 2 ^ 63)
    (ssdSmall : ssdCapacityBytes.toNat < 2 ^ 63)
    (sizesSmall : ∀ path sizeBytes, .addFile path sizeBytes ∈ calls → sizeBytes.toNat < 2 ^ 63)
    (ran : run policyStep (emptyPolicy fsdaxCapacityBytes ssdCapacityBytes) calls = some state) :
    WithinCapacity state ∧
      state.capacity = (emptyPolicy fsdaxCapacityBytes ssdCapacityBytes).capacity := by
  let start := emptyPolicy fsdaxCapacityBytes ssdCapacityBytes
  have meets : Meets policyStep (fun _ call => SmallRequest call) start calls := by
    apply meets_of_forall
    intro call member _ path sizeBytes called
    exact sizesSmall path sizeBytes (called ▸ member)
  have preserved : ∀ before call after,
      WithinCapacity before ∧ before.capacity = start.capacity → SmallRequest call →
      policyStep before call = some after →
      WithinCapacity after ∧ after.capacity = start.capacity := by
    intro before call after ⟨within, fixed⟩ small returned
    have effect := policyStep_effect within.accounted.managed returned
    exact ⟨effect.withinCapacity within small, effect.capacity_eq.trans fixed⟩
  exact run_invariant_of_meets preserved ⟨withinCapacity_empty fsdaxSmall ssdSmall, rfl⟩ meets ran

/-- With sizes and capacities below `2 ^ 63` the counters are exact sums within the
capacities, no decrement wraps, and eviction never has anything to do. -/
theorem policy_capacity (fsdaxCapacityBytes ssdCapacityBytes : UInt64) (calls : List PolicyCall)
    (state : PolicyState)
    (fsdaxSmall : fsdaxCapacityBytes.toNat < 2 ^ 63) (ssdSmall : ssdCapacityBytes.toNat < 2 ^ 63)
    (sizesSmall : ∀ path sizeBytes, .addFile path sizeBytes ∈ calls → sizeBytes.toNat < 2 ^ 63)
    (ran : run policyStep (emptyPolicy fsdaxCapacityBytes ssdCapacityBytes) calls = some state) :
    state.fsdaxUsedBytes.toNat = tierBytes state.fileMetaMap .fsdax ∧
    state.ssdUsedBytes.toNat = tierBytes state.fileMetaMap .ssd ∧
    state.fsdaxUsedBytes ≤ fsdaxCapacityBytes ∧
    state.ssdUsedBytes ≤ ssdCapacityBytes ∧
    ExactDebits state ∧
    cachePolicyEvictIfNeeded state = some (0, state) := by
  obtain ⟨within, fixed⟩ := run_withinCapacity fsdaxSmall ssdSmall sizesSmall ran
  have fsdaxCapacity : state.capacity .fsdax = fsdaxCapacityBytes := congrFun fixed .fsdax
  have ssdCapacity : state.capacity .ssd = ssdCapacityBytes := congrFun fixed .ssd
  have fsdaxFits := UInt64.le_iff_toNat_le.mpr (within.fits .fsdax)
  have ssdFits := UInt64.le_iff_toNat_le.mpr (within.fits .ssd)
  rw [fsdaxCapacity] at fsdaxFits
  rw [ssdCapacity] at ssdFits
  exact ⟨within.exact .fsdax, within.exact .ssd, fsdaxFits, ssdFits, within.exactDebits,
    within.evictIfNeeded⟩

theorem policy_capacity_mixed : ∃ state,
    run policyStep (emptyPolicy 8 8) mixedCalls = some state ∧
    state.fsdaxUsedBytes.toNat = tierBytes state.fileMetaMap .fsdax ∧
    state.ssdUsedBytes.toNat = tierBytes state.fileMetaMap .ssd ∧
    state.fsdaxUsedBytes ≤ 8 ∧
    state.ssdUsedBytes ≤ 8 ∧
    ExactDebits state ∧
    cachePolicyEvictIfNeeded state = some (0, state) := by
  have returns : (run policyStep (emptyPolicy 8 8) mixedCalls).isSome = true := by decide
  obtain ⟨state, ran⟩ := Option.isSome_iff_exists.mp returns
  refine ⟨state, ran, policy_capacity 8 8 mixedCalls state (by decide) (by decide) ?_ ran⟩
  intro path sizeBytes member
  simp only [mixedCalls, List.mem_cons, PolicyCall.addFile.injEq, reduceCtorEq, List.not_mem_nil,
    or_false] at member
  rcases member with ⟨_, size⟩ | ⟨_, size⟩ | ⟨_, size⟩ | ⟨_, size⟩ <;> simp [size]

end HvacCache
