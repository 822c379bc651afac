import HvacCache.Eviction
import HvacCache.PolicyHistory
import HvacCache.PolicyThreads
import HvacCache.TierMoves
import HvacCache.Library.TieredStore

/-! What the cache policy is for: files in a PM tier and an SSD tier, each within its capacity.
This store has no counters and no mutex. The module, called from any number of threads, answers
as the store allows and ends the process only where the store does. -/

namespace HvacCache

open CriticalSection LockGuard Std TieredStore Transition

structure FileNote where
  accessCount : UInt64
  isOpen : Bool

abbrev FileItem := Item CacheTier FileNote

abbrev PolicyStore := Store String CacheTier FileNote

/-- A closed file in the PM tier. The path `""` stands for no file. -/
structure MayLeave (store : PolicyStore) (path : String) (item : FileItem) : Prop where
  named : path ≠ ""
  found : store.items path = some item
  tier : item.tier = .fsdax
  closed : item.note.isOpen = false

/-- The SSD tier takes a new file only if there is no room for it in the PM tier. -/
def Preferred (store : PolicyStore) (size : Nat) (tier : CacheTier) : Prop :=
  tier = .fsdax ∨ tier = .ssd ∧ ¬ store.HasRoom .fsdax size

def Stays (store : PolicyStore) (item : FileItem) (target : CacheTier) : Prop :=
  item.tier = target ∨ ¬ target.Managed ∨ target = .fsdax ∧ ¬ store.HasRoom .fsdax item.size

/-- What the store answers, and what it is afterwards. Among files that are used as little it
may choose any. -/
inductive Serves (store : PolicyStore) : LockedCall → PolicyAnswer → PolicyStore → Prop
  | known {path : String} {sizeBytes : UInt64} {item : FileItem}
      (found : store.items path = some item) :
      Serves store (.call (.addFile path sizeBytes)) .nothing store
  | placed {path : String} {sizeBytes : UInt64} (tier : CacheTier)
      (free : store.items path = none) (preferred : Preferred store sizeBytes.toNat tier)
      (room : store.HasRoom tier sizeBytes.toNat) :
      Serves store (.call (.addFile path sizeBytes)) .nothing
        (store.put path ⟨tier, sizeBytes.toNat, ⟨0, true⟩⟩ free room)
  | refused {path : String} {sizeBytes : UInt64} (free : store.items path = none)
      (full : ∀ tier : CacheTier, tier.Managed → ¬ store.HasRoom tier sizeBytes.toNat) :
      Serves store (.call (.addFile path sizeBytes)) .nothing store
  | accessed {path : String} (item : FileItem) (found : store.items path = some item) :
      Serves store (.call (.updateAccess path)) .nothing
        (store.annotate path item
          { item.note with accessCount := item.note.accessCount + 1 } found)
  | notAccessed {path : String} (missing : store.items path = none) :
      Serves store (.call (.updateAccess path)) .nothing store
  | moved {path : String} {target : CacheTier} (item : FileItem)
      (found : store.items path = some item) (different : item.tier ≠ target)
      (managed : target.Managed) (room : store.HasRoom target item.size) :
      Serves store (.call (.updateTier path target)) .nothing
        (store.move path item target found room)
  | notMoved {path : String} {target : CacheTier}
      (stays : ∀ item, store.items path = some item → Stays store item target) :
      Serves store (.call (.updateTier path target)) .nothing store
  | marked {path : String} {isOpen : Bool} (item : FileItem)
      (found : store.items path = some item) :
      Serves store (.call (.setOpenState path isOpen)) .nothing
        (store.annotate path item { item.note with isOpen } found)
  | removed {path : String} {item : FileItem} (found : store.items path = some item) :
      Serves store (.call (.removeFile path)) .nothing (store.remove path)
  | evicted : Serves store (.call .evictIfNeeded) (.code 0) store
  | tier {path : String} :
      Serves store (.getTier path) (.tier ((store.items path).elim .unknown Item.tier)) store
  | victim {path : String} (item : FileItem) (leaves : MayLeave store path item)
      (least : ∀ other rival, MayLeave store other rival →
        item.note.accessCount ≤ rival.note.accessCount) :
      Serves store .selectVictimForEviction (.path path) store
  | noVictim (none : ∀ path item, ¬ MayLeave store path item) :
      Serves store .selectVictimForEviction (.path "") store
  | usage {pmBytes ssdBytes : UInt64} (pm : pmBytes.toNat = store.load .fsdax)
      (ssd : ssdBytes.toNat = store.load .ssd) :
      Serves store .getUsageBytes (.usage pmBytes ssdBytes) store

/-- The calls that end the process: a file that should be there is not, or the SSD tier has no
room for what is to be moved there. -/
inductive Ends (store : PolicyStore) : LockedCall → Prop
  | marked {path : String} {isOpen : Bool} (missing : store.items path = none) :
      Ends store (.call (.setOpenState path isOpen))
  | removed {path : String} (missing : store.items path = none) :
      Ends store (.call (.removeFile path))
  | moved {path : String} {item : FileItem} (found : store.items path = some item)
      (source : item.tier = .fsdax) (full : ¬ store.HasRoom .ssd item.size) :
      Ends store (.call (.updateTier path .ssd))

def FileMeta.item (entry : FileMeta) : FileItem := {
  tier := entry.currentTier
  size := entry.size.toNat
  note := { accessCount := entry.accessCount, isOpen := entry.isOpen }
}

/-- The globals as a store. Their counters are the sums that the store has no need for. -/
structure Represents (state : PolicyState) (store : PolicyStore) : Prop where
  within : WithinCapacity state
  items : ∀ path : String, store.items path = (state.fileMetaMap[path]?).map FileMeta.item
  capacity : ∀ tier, store.capacity tier = (state.capacity tier).toNat

def emptyStore (fsdaxCapacityBytes ssdCapacityBytes : UInt64) : PolicyStore :=
  Store.empty fun tier => ((emptyPolicy fsdaxCapacityBytes ssdCapacityBytes).capacity tier).toNat

theorem represents_empty {fsdaxCapacityBytes ssdCapacityBytes : UInt64}
    (fsdaxSmall : fsdaxCapacityBytes.toNat < 2 ^ 63) (ssdSmall : ssdCapacityBytes.toNat < 2 ^ 63) :
    Represents (emptyPolicy fsdaxCapacityBytes ssdCapacityBytes)
      (emptyStore fsdaxCapacityBytes ssdCapacityBytes) := by
  constructor
  · exact withinCapacity_empty fsdaxSmall ssdSmall
  · intro path
    simp [emptyPolicy, emptyStore, Store.empty]
  · intro tier
    rfl

section
variable {state next : PolicyState} {store : PolicyStore} {path : String} {entry : FileMeta}

theorem Represents.item (represents : Represents state store)
    (found : state.fileMetaMap[path]? = some entry) : store.items path = some entry.item := by
  rw [represents.items, found]
  rfl

theorem Represents.free (represents : Represents state store)
    (missing : state.fileMetaMap[path]? = none) : store.items path = none := by
  rw [represents.items, missing]
  rfl

theorem Represents.found {item : FileItem} (represents : Represents state store)
    (present : store.items path = some item) :
    ∃ entry : FileMeta, state.fileMetaMap[path]? = some entry ∧ entry.item = item := by
  rw [represents.items, Option.map_eq_some_iff] at present
  exact present

theorem Represents.used (represents : Represents state store) (tier : CacheTier) :
    (state.used tier).toNat = store.load tier := by
  let entries := state.fileMetaMap.toList.map fun file => (file.1, file.2.item)
  have keys : entries.map Prod.fst = state.fileMetaMap.keys := by
    simp [entries, Function.comp_def, ExtTreeMap.map_fst_toList_eq_keys]
  have distinct : (entries.map Prod.fst).Nodup := keys ▸ ExtTreeMap.nodup_keys
  have listed : ∀ path item, (path, item) ∈ entries ↔ store.items path = some item := by
    intro path item
    rw [represents.items, Option.map_eq_some_iff, List.mem_map]
    constructor
    · rintro ⟨file, member, same⟩
      simp only [Prod.mk.injEq] at same
      obtain ⟨rfl, rfl⟩ := same
      exact ⟨file.2, mem_toList_iff.mp member, rfl⟩
    · rintro ⟨entry, found, rfl⟩
      exact ⟨(path, entry), mem_toList_iff.mpr found, rfl⟩
  rw [represents.within.exact, Store.load, load_eq_sum distinct listed]
  simp only [tierBytes, OrderedMap.total, entries, List.map_map]
  rfl

theorem Represents.room_iff (represents : Represents state store) {sizeBytes : UInt64}
    (small : sizeBytes.toNat < 2 ^ 63) (tier : CacheTier) :
    state.used tier + sizeBytes ≤ state.capacity tier ↔
      store.HasRoom tier sizeBytes.toNat := by
  have fits := represents.within.fits tier
  have capacitySmall := represents.within.capacitySmall tier
  rw [HvacCache.room_iff tier (UInt64.le_iff_toNat_le.mpr fits), Store.HasRoom,
    ← represents.used, represents.capacity, PolicyState.Fits, PolicyState.Wraps]
  omega

theorem Represents.set (represents : Represents state store) (within : WithinCapacity next)
    (entry : Option FileMeta)
    (map : ∀ other : String, next.fileMetaMap[other]? =
      if path = other then entry else state.fileMetaMap[other]?)
    (capacity : next.capacity = state.capacity)
    (room : ∀ tier, store.load tier + weight tier (entry.map FileMeta.item) ≤
      store.capacity tier + weight tier (store.items path)) :
    Represents next (store.set path (entry.map FileMeta.item) room) := by
  refine ⟨within, ?_, ?_⟩
  · intro other
    rw [map]
    by_cases same : path = other
    · subst other
      simp [Store.set]
    · simp only [Store.set, Function.update_of_ne (Ne.symm same), if_neg same]
      exact represents.items other
  · intro tier
    rw [capacity]
    exact represents.capacity tier

/-! One lemma for each function: what it does, the store allows. -/

theorem Represents.addFile (represents : Represents state store) {sizeBytes : UInt64}
    (small : sizeBytes.toNat < 2 ^ 63) :
    ∃ after, Serves store (.call (.addFile path sizeBytes)) .nothing after ∧
      Represents (cachePolicyAddFile state path sizeBytes) after := by
  have effect := addFile_effect state path sizeBytes
  have within : WithinCapacity (cachePolicyAddFile state path sizeBytes) := by
    refine effect.withinCapacity represents.within ?_
    rintro other size ⟨⟩
    exact small
  have fsdaxRoom : state.fsdaxUsedBytes + sizeBytes ≤ state.fsdaxCapacityBytes ↔ _ :=
    represents.room_iff small .fsdax
  have ssdRoom : state.ssdUsedBytes + sizeBytes ≤ state.ssdCapacityBytes ↔ _ :=
    represents.room_iff small .ssd
  cases found : state.fileMetaMap[path]? with
  | some entry =>
      have same : cachePolicyAddFile state path sizeBytes = state := by
        simp [cachePolicyAddFile, found]
      rw [same]
      exact ⟨store, .known (represents.item found), represents⟩
  | none =>
      have free := represents.free found
      by_cases room : store.HasRoom .fsdax sizeBytes.toNat
      · refine ⟨_, .placed .fsdax free (Or.inl rfl) room, ?_⟩
        have placed := addFile_fsdax found (fsdaxRoom.mpr room)
        refine represents.set within (some (newFileMeta path sizeBytes .fsdax)) ?_ ?_ _
        · intro other
          rw [placed, OrderedMap.getElem?_insert_ite]
        · exact effect.capacity_eq
      · by_cases ssd : store.HasRoom .ssd sizeBytes.toNat
        · refine ⟨_, .placed .ssd free (Or.inr ⟨rfl, room⟩) ssd, ?_⟩
          have placed := addFile_ssd found (fsdaxRoom.not.mpr room) (ssdRoom.mpr ssd)
          refine represents.set within (some (newFileMeta path sizeBytes .ssd)) ?_ ?_ _
          · intro other
            rw [placed, OrderedMap.getElem?_insert_ite]
          · exact effect.capacity_eq
        · refine ⟨store, .refused free ?_, ?_⟩
          · rintro tier (rfl | rfl)
            · exact room
            · exact ssd
          · rw [addFile_refused found (fsdaxRoom.not.mpr room) (ssdRoom.not.mpr ssd)]
            exact represents

theorem Represents.updateAccess (represents : Represents state store) :
    ∃ after, Serves store (.call (.updateAccess path)) .nothing after ∧
      Represents (cachePolicyUpdateAccess state path) after := by
  have effect : PolicyEffect state (.updateAccess path) (cachePolicyUpdateAccess state path) :=
    updateAccess_effect state path
  have within : WithinCapacity (cachePolicyUpdateAccess state path) := by
    refine effect.withinCapacity represents.within ?_
    rintro other size ⟨⟩
  cases found : state.fileMetaMap[path]? with
  | none =>
      have same : cachePolicyUpdateAccess state path = state := by
        simp [cachePolicyUpdateAccess, found]
      rw [same]
      exact ⟨store, .notAccessed (represents.free found), represents⟩
  | some entry =>
      refine ⟨_, .accessed entry.item (represents.item found), ?_⟩
      refine represents.set within
        (some { entry with accessCount := entry.accessCount + 1 }) ?_ effect.capacity_eq _
      intro other
      simp only [cachePolicyUpdateAccess, found, OrderedMap.getElem?_insert_ite]

theorem Represents.stays (represents : Represents state store) {target : CacheTier}
    (returned : cachePolicyUpdateTier state path target = some state)
    (found : state.fileMetaMap[path]? = some entry) : Stays store entry.item target := by
  have sizeSmall := represents.within.sizeSmall path entry found
  have source := represents.within.accounted.managed path entry found
  by_cases same : entry.currentTier = target
  · exact Or.inl same
  · by_cases managed : target.Managed
    · by_cases room : store.HasRoom target entry.item.size
      · obtain ⟨again, moves, move⟩ := updateTier_moves found source same managed
          ((represents.room_iff sizeSmall target).mpr room)
        rw [returned, Option.some.injEq] at moves
        subst again
        have stored := move.stored
        rw [found, Option.some.injEq] at stored
        exact absurd (congrArg FileMeta.currentTier stored) same
      · rcases managed with rfl | rfl
        · exact Or.inr (Or.inr ⟨rfl, room⟩)
        · have full := (represents.room_iff sizeSmall .ssd).not.mpr room
          simp only [PolicyState.used, PolicyState.capacity] at full
          simp [cachePolicyUpdateTier, found, moveToSsd, source.resolve_right same, full]
            at returned
    · exact Or.inr (Or.inl managed)

theorem Represents.updateTier (represents : Represents state store) {target : CacheTier}
    (returned : cachePolicyUpdateTier state path target = some next) :
    ∃ after, Serves store (.call (.updateTier path target)) .nothing after ∧
      Represents next after := by
  rcases updateTier_cases returned with same | ⟨entry, move⟩
  · subst next
    refine ⟨store, .notMoved ?_, represents⟩
    intro item present
    obtain ⟨entry, found, rfl⟩ := represents.found present
    exact represents.stays returned found
  · have sizeSmall := represents.within.sizeSmall path entry move.found
    have room := (represents.room_iff sizeSmall target).mp move.room
    refine ⟨_, .moved entry.item (represents.item move.found) move.different move.managed room, ?_⟩
    refine represents.set (move.withinCapacity represents.within)
      (some { entry with currentTier := target }) ?_ move.capacity _
    intro other
    rw [move.map, OrderedMap.getElem?_insert_ite]

theorem Represents.setOpenState (represents : Represents state store) {isOpen : Bool}
    (returned : cachePolicySetOpenState state path isOpen = some next) :
    ∃ after, Serves store (.call (.setOpenState path isOpen)) .nothing after ∧
      Represents next after := by
  have effect : PolicyEffect state (.setOpenState path isOpen) next := setOpenState_effect returned
  have within : WithinCapacity next := by
    refine effect.withinCapacity represents.within ?_
    rintro other size ⟨⟩
  unfold cachePolicySetOpenState at returned
  cases found : state.fileMetaMap[path]? with
  | none => simp [found] at returned
  | some entry =>
      simp only [found, Option.some.injEq] at returned
      refine ⟨_, .marked entry.item (represents.item found), ?_⟩
      refine represents.set within (some { entry with isOpen }) ?_ effect.capacity_eq _
      intro other
      rw [← returned, OrderedMap.getElem?_insert_ite]

theorem Represents.removeFile (represents : Represents state store)
    (returned : cachePolicyRemoveFile state path = some next) :
    ∃ after, Serves store (.call (.removeFile path)) .nothing after ∧ Represents next after := by
  obtain ⟨entry, removal⟩ := removeFile_removal (represents.within.accounted.managed path) returned
  refine ⟨_, .removed (represents.item removal.found), ?_⟩
  refine represents.set (removal.withinCapacity represents.within) none ?_ removal.capacity _
  intro other
  rw [removal.map, OrderedMap.getElem?_erase_ite]

structure Considered (state : PolicyState) (files : List (String × FileMeta)) : Prop where
  stored : ∀ file ∈ files, state.fileMetaMap[file.1]? = some file.2
  ordered : files.Pairwise fun first second => first.1 < second.1
  named : ∀ file ∈ files, file.1 ≠ ""
  complete : ∀ (path : String) (entry : FileMeta), path ≠ "" →
    state.fileMetaMap[path]? = some entry → (path, entry) ∈ files
  scanned : state.fileMetaMap.toList.foldl victimScan (state.fileMetaMap, "") =
    files.foldl victimScan (state.fileMetaMap, "")

theorem exists_considered (state : PolicyState) : ∃ files, Considered state files := by
  have ordered : state.fileMetaMap.toList.Pairwise fun first second => first.1 < second.1 :=
    ExtTreeMap.ordered_keys_toList.imp (compare_eq_lt_iff _ _).mp
  have stored : ∀ file ∈ state.fileMetaMap.toList, state.fileMetaMap[file.1]? = some file.2 :=
    fun _ listed => mem_toList_iff.mp listed
  cases unnamed : state.fileMetaMap[""]? with
  | none =>
      refine ⟨state.fileMetaMap.toList, stored, ordered, ?_, ?_, rfl⟩
      · intro file listed empty
        have found := stored file listed
        simp [empty, unnamed] at found
      · exact fun path entry _ found => mem_toList_iff.mpr found
  | some first =>
      have listed : ("", first) ∈ state.fileMetaMap.toList := mem_toList_iff.mpr unnamed
      obtain ⟨before, files, parted⟩ := List.append_of_mem listed
      rw [parted] at ordered
      obtain rfl : before = [] := by
        refine List.eq_nil_iff_forall_not_mem.mpr fun file member => ?_
        have smaller := (List.pairwise_append.mp ordered).2.2 file member ("", first) (by simp)
        rw [String.lt_iff_toList_lt] at smaller
        exact List.not_lt_nil _ smaller
      rw [List.nil_append] at parted ordered
      obtain ⟨greater, ordered⟩ := List.pairwise_cons.mp ordered
      refine ⟨files, ?_, ordered, ?_, ?_, ?_⟩
      · exact fun file member => stored file (by simp [parted, member])
      · intro file member empty
        have less := greater file member
        simp [empty] at less
      · intro path entry named found
        have member : (path, entry) ∈ state.fileMetaMap.toList := mem_toList_iff.mpr found
        rw [parted, List.mem_cons, Prod.mk.injEq] at member
        exact member.resolve_left fun same => named same.1
      · simp [parted, victimScan]

theorem selectVictim_named (state : PolicyState) :
    ((cachePolicySelectVictimForEviction state).1 = "" ∧
      ∀ path, path ≠ "" → ¬ Evictable state path) ∨
    ((cachePolicySelectVictimForEviction state).1 ≠ "" ∧
      Evictable state (cachePolicySelectVictimForEviction state).1 ∧
      ∀ path, path ≠ "" → Evictable state path →
        path ≠ (cachePolicySelectVictimForEviction state).1 →
        EvictedBefore state (cachePolicySelectVictimForEviction state).1 path) := by
  obtain ⟨files, considered⟩ := exists_considered state
  have start : Scanned state.fileMetaMap [] (state.fileMetaMap, "") :=
    ⟨rfl, Or.inl ⟨rfl, by simp⟩⟩
  have scanned : Scanned state.fileMetaMap files
      (files.foldl victimScan (state.fileMetaMap, "")) :=
    start.foldl considered.stored considered.ordered considered.named
  rw [cachePolicySelectVictimForEviction, considered.scanned]
  rcases scanned.least with ⟨empty, none⟩ | ⟨known, entry, member, candidate, least⟩
  · refine Or.inl ⟨empty, ?_⟩
    rintro path named ⟨entry, found, candidate⟩
    exact none (path, entry) (considered.complete path entry named found) candidate
  · have found := considered.stored _ member
    refine Or.inr ⟨known, ⟨entry, found, candidate⟩, ?_⟩
    rintro path named ⟨other, stored, candidate⟩ different
    refine ⟨entry, other, found, stored, ?_⟩
    rcases least (path, other) (considered.complete path other named stored) candidate
      with same | less
    · exact absurd (congrArg Prod.fst same) different
    · exact less

theorem Represents.evictable_iff (represents : Represents state store) :
    (path ≠ "" ∧ Evictable state path) ↔ ∃ item, MayLeave store path item := by
  constructor
  · rintro ⟨named, entry, found, tier, closed⟩
    exact ⟨entry.item, named, represents.item found, tier, closed⟩
  · rintro ⟨item, named, present, tier, closed⟩
    obtain ⟨entry, found, rfl⟩ := represents.found present
    exact ⟨named, entry, found, tier, closed⟩

theorem Represents.selectVictim (represents : Represents state store) :
    Serves store .selectVictimForEviction
      (.path (cachePolicySelectVictimForEviction state).1) store := by
  rcases selectVictim_named state with ⟨empty, none⟩ | ⟨named, evictable, least⟩
  · rw [empty]
    refine .noVictim fun path item leaves => ?_
    obtain ⟨named, evictable⟩ := represents.evictable_iff.mpr ⟨item, leaves⟩
    exact none path named evictable
  · obtain ⟨item, leaves⟩ := represents.evictable_iff.mp ⟨named, evictable⟩
    refine .victim item leaves fun other rival rivalLeaves => ?_
    obtain ⟨otherNamed, otherEvictable⟩ := represents.evictable_iff.mpr ⟨rival, rivalLeaves⟩
    obtain ⟨entry, found, rfl⟩ := represents.found leaves.found
    obtain ⟨otherEntry, otherFound, rfl⟩ := represents.found rivalLeaves.found
    by_cases same : other = (cachePolicySelectVictimForEviction state).1
    · subst other
      rw [found, Option.some.injEq] at otherFound
      rw [otherFound]
      exact UInt64.le_refl _
    · obtain ⟨first, second, stored, otherStored, before⟩ :=
        least other otherNamed otherEvictable same
      rw [found, Option.some.injEq] at stored
      rw [otherFound, Option.some.injEq] at otherStored
      subst first second
      rcases before with fewer | ⟨equal, _⟩
      · exact UInt64.le_of_lt fewer
      · exact UInt64.le_of_eq equal

theorem perform_step {call : PolicyCall} (changes : call ≠ .evictIfNeeded) (state : PolicyState) :
    (LockedCall.call call).perform state =
      match policyStep state call with
      | none => .exited
      | some next => .returned .nothing next := by
  cases call with
  | evictIfNeeded => exact absurd rfl changes
  | _ => rfl

theorem perform_step_returned {call : PolicyCall} {answer : PolicyAnswer}
    (changes : call ≠ .evictIfNeeded)
    (returned : (LockedCall.call call).perform state = .returned answer next) :
    answer = .nothing ∧ policyStep state call = some next := by
  rw [perform_step changes] at returned
  split at returned
  · simp at returned
  · rename_i after stepped
    simp only [Outcome.returned.injEq] at returned
    obtain ⟨rfl, rfl⟩ := returned
    exact ⟨rfl, stepped⟩

theorem Represents.stepped (represents : Represents state store) {call : PolicyCall}
    (small : SmallRequest call) (changes : call ≠ .evictIfNeeded)
    (stepped : policyStep state call = some next) :
    ∃ after, Serves store (.call call) .nothing after ∧ Represents next after := by
  cases call with
  | addFile path sizeBytes =>
      simp only [policyStep, Option.some.injEq] at stepped
      exact stepped ▸ represents.addFile (small path sizeBytes rfl)
  | updateAccess path =>
      simp only [policyStep, Option.some.injEq] at stepped
      exact stepped ▸ represents.updateAccess
  | updateTier path newTier => exact represents.updateTier stepped
  | setOpenState path isOpen => exact represents.setOpenState stepped
  | removeFile path => exact represents.removeFile stepped
  | evictIfNeeded => exact absurd rfl changes

theorem Represents.returned (represents : Represents state store) {call : LockedCall}
    {answer : PolicyAnswer} (small : SmallCall call)
    (returned : call.perform state = .returned answer next) :
    ∃ after, Serves store call answer after ∧ Represents next after := by
  cases call with
  | call call =>
      by_cases eviction : call = .evictIfNeeded
      · subst call
        simp only [LockedCall.perform] at returned
        split at returned
        · simp only [Outcome.returned.injEq] at returned
          obtain ⟨rfl, rfl⟩ := returned
          exact ⟨store, .evicted, represents⟩
        · simp at returned
      · obtain ⟨rfl, stepped⟩ := perform_step_returned eviction returned
        exact represents.stepped (small call rfl) eviction stepped
  | getTier path =>
      simp only [LockedCall.perform, Outcome.returned.injEq] at returned
      obtain ⟨rfl, rfl⟩ := returned
      have same : (store.items path).elim .unknown Item.tier = cachePolicyGetTier state path := by
        rw [represents.items, cachePolicyGetTier]
        cases state.fileMetaMap[path]? <;> rfl
      exact ⟨store, same ▸ .tier, represents⟩
  | selectVictimForEviction =>
      simp only [LockedCall.perform, (selectVictim_keeps state).1, Outcome.returned.injEq]
        at returned
      obtain ⟨rfl, rfl⟩ := returned
      exact ⟨store, represents.selectVictim, represents⟩
  | getUsageBytes =>
      simp only [LockedCall.perform, Outcome.returned.injEq] at returned
      obtain ⟨rfl, rfl⟩ := returned
      exact ⟨store, .usage (represents.used .fsdax) (represents.used .ssd), represents⟩

theorem Represents.updateTier_exits (represents : Represents state store) {target : CacheTier}
    (exits : cachePolicyUpdateTier state path target = none) :
    Ends store (.call (.updateTier path target)) := by
  unfold cachePolicyUpdateTier at exits
  cases found : state.fileMetaMap[path]? with
  | none => simp [found] at exits
  | some entry =>
      have sizeSmall := represents.within.sizeSmall path entry found
      simp only [found] at exits
      split at exits
      · simp at exits
      · cases target with
        | ssd =>
            by_cases source : entry.currentTier = .fsdax
            · refine .moved (represents.item found) source fun room => ?_
              obtain ⟨next, moves, _⟩ :=
                moveToSsd_moves found source ((represents.room_iff sizeSmall .ssd).mpr room)
              simp [moves] at exits
            · simp [moveToSsd, source] at exits
        | _ => simp at exits

theorem Represents.exited (represents : Represents state store) {call : LockedCall}
    (exited : call.perform state = .exited) : Ends store call := by
  cases call with
  | call call =>
      by_cases eviction : call = .evictIfNeeded
      · subst call
        simp only [LockedCall.perform] at exited
        split at exited <;> simp at exited
      · have stepped : policyStep state call = none := by
          rw [perform_step eviction] at exited
          split at exited
          · assumption
          · simp at exited
        cases call with
        | updateTier path newTier => exact represents.updateTier_exits stepped
        | setOpenState path isOpen =>
            have known : (cachePolicySetOpenState state path isOpen).isSome = _ :=
              setOpenState_isSome
            rw [show cachePolicySetOpenState state path isOpen = none from stepped] at known
            exact .marked (represents.free (by grind))
        | removeFile path =>
            have known : (cachePolicyRemoveFile state path).isSome = _ := removeFile_isSome
            rw [show cachePolicyRemoveFile state path = none from stepped] at known
            exact .removed (represents.free (by grind))
        | evictIfNeeded => exact absurd rfl eviction
        | _ => simp [policyStep] at stepped
  | _ => simp [LockedCall.perform] at exited

end

section
variable {Thread : Type*} [DecidableEq Thread]

/-- With sizes and capacities below `2 ^ 63`, what any number of threads get from the module,
however they are interleaved, is what the store allows when it serves their calls one after the
other. The globals represent the store whenever the mutex is free, and a thread ends the process
only in a call that ends it in the store. -/
theorem policy_threads_refine_store (fsdaxCapacityBytes ssdCapacityBytes : UInt64)
    (actions : List (Action Thread LockedCall)) (system : PolicySystem Thread)
    (fsdaxSmall : fsdaxCapacityBytes.toNat < 2 ^ 63) (ssdSmall : ssdCapacityBytes.toNat < 2 ^ 63)
    (sizesSmall : ∀ thread path sizeBytes, .call thread (.call (.addFile path sizeBytes)) ∈ actions →
      sizeBytes.toNat < 2 ^ 63)
    (ran : run policyThreadsStep
      (System.initial (emptyPolicy fsdaxCapacityBytes ssdCapacityBytes)) actions = some system) :
    ∃ store, Explained Serves (emptyStore fsdaxCapacityBytes ssdCapacityBytes)
        system.completed store ∧
      (system.holder = none → Represents system.shared store) ∧
      (system.exited = true → ∃ thread call,
        system.progress thread = .inside call .exit ∧ Ends store call) := by
  let start := emptyPolicy fsdaxCapacityBytes ssdCapacityBytes
  have compliant : Compliant (fun _ => SmallCall) system := by
    refine run_compliant (compliant_initial _ start) ?_ ran
    rintro thread call made policyCall rfl path sizeBytes rfl
    exact sizesSmall thread path sizeBytes made
  obtain ⟨base, excluded⟩ := run_policyExcluded ran
  have replays : Replays LockedCall.perform start system.completed base :=
    body_run ▸ excluded.replays
  obtain ⟨store, explained, represents⟩ := replays.explained
    (fun _ _ _ _ _ represents small returned => represents.returned small returned)
    (represents_empty fsdaxSmall ssdSmall) compliant.completed
  refine ⟨store, explained, ?_, ?_⟩
  · intro free
    rw [excluded.free free]
    exact represents
  · intro exited
    obtain ⟨thread, call, inside⟩ := run_exited ran exited
    have same := (excluded.partway inside).run_eq
    rw [run_body, Body.run_exit] at same
    exact ⟨thread, call, inside, represents.exited same.symm⟩

theorem policy_threads_refine_store_interleaved : ∃ system : PolicySystem Bool,
    run policyThreadsStep (System.initial (emptyPolicy 8 8)) interleavedCalls = some system ∧
    ∃ store, Explained Serves (emptyStore 8 8) system.completed store ∧
      (system.holder = none → Represents system.shared store) ∧
      (system.exited = true → ∃ thread call,
        system.progress thread = .inside call .exit ∧ Ends store call) := by
  have returns : (run policyThreadsStep (System.initial (emptyPolicy 8 8))
      interleavedCalls).isSome = true := by decide
  obtain ⟨system, ran⟩ := Option.isSome_iff_exists.mp returns
  refine ⟨system, ran,
    policy_threads_refine_store 8 8 interleavedCalls system (by decide) (by decide) ?_ ran⟩
  intro thread path sizeBytes member
  simp only [interleavedCalls, List.mem_cons, Action.call.injEq, LockedCall.call.injEq,
    PolicyCall.addFile.injEq, reduceCtorEq, List.not_mem_nil, and_false, or_false] at member
  simp [member.2.2]

end

end HvacCache
