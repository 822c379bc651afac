import HvacCache.Admission
import HvacCache.Library.Selection
import Mathlib.Data.String.Basic

/-! Eviction from the PM tier: which file `cache_policy_select_victim_for_eviction` chooses,
in what order repeated selection and removal go through the candidates, and whether an
eviction makes room for the file to be added. -/

namespace HvacCache

open Std Selection Transition

theorem compare_eq_lt_iff (first second : String) :
    compare first second = .lt ↔ first < second := by
  change compareOfLessAndEq first second = .lt ↔ first < second
  unfold compareOfLessAndEq
  split
  · rename_i less
    simp [less]
  · rename_i notLess
    split <;> simp [notLess]

def FileMeta.Candidate (entry : FileMeta) : Prop :=
  entry.currentTier = .fsdax ∧ entry.isOpen = false

def LessUsed (first second : String × FileMeta) : Prop :=
  first.2.accessCount < second.2.accessCount ∨
    first.2.accessCount = second.2.accessCount ∧ first.1 < second.1

def Evictable (state : PolicyState) (path : String) : Prop :=
  ∃ entry, state.fileMetaMap[path]? = some entry ∧ entry.Candidate

def EvictedBefore (state : PolicyState) (former latter : String) : Prop :=
  ∃ first second, state.fileMetaMap[former]? = some first ∧
    state.fileMetaMap[latter]? = some second ∧ LessUsed (former, first) (latter, second)

/-! The scan for a victim. -/

structure Scanned (map : OrderedMap String FileMeta) (seen : List (String × FileMeta))
    (found : OrderedMap String FileMeta × String) : Prop where
  same : found.1 = map
  least : (found.2 = "" ∧ ∀ file ∈ seen, ¬ file.2.Candidate) ∨
    (found.2 ≠ "" ∧ ∃ entry, (found.2, entry) ∈ seen ∧ entry.Candidate ∧
      ∀ file ∈ seen, file.2.Candidate → file = (found.2, entry) ∨ LessUsed (found.2, entry) file)

section
variable {map : OrderedMap String FileMeta} {seen : List (String × FileMeta)}
  {found : OrderedMap String FileMeta × String} {file : String × FileMeta}

theorem Scanned.skip (scanned : Scanned map seen found) (passed : ¬ file.2.Candidate) :
    Scanned map (seen ++ [file]) found := by
  refine ⟨scanned.same, ?_⟩
  rcases scanned.least with ⟨empty, none⟩ | ⟨named, entry, member, candidate, least⟩
  · refine Or.inl ⟨empty, ?_⟩
    intro other listed
    rcases List.mem_append.mp listed with before | last
    · exact none other before
    · rw [List.mem_singleton.mp last]
      exact passed
  · refine Or.inr ⟨named, entry, by simp [member], candidate, ?_⟩
    intro other listed considered
    rcases List.mem_append.mp listed with before | last
    · exact least other before considered
    · rw [List.mem_singleton.mp last] at considered
      exact absurd considered passed

theorem scanned_take (named : file.1 ≠ "")
    (considered : file.2.Candidate)
    (less : ∀ other ∈ seen, other.2.Candidate → LessUsed file other) :
    Scanned map (seen ++ [file]) (map, file.1) := by
  refine ⟨rfl, Or.inr ⟨named, file.2, by simp, considered, ?_⟩⟩
  intro other listed candidate
  rcases List.mem_append.mp listed with before | last
  · exact Or.inr (less other before candidate)
  · exact Or.inl (List.mem_singleton.mp last)

theorem scanned_keep {entry : FileMeta} (named : found.2 ≠ "")
    (member : (found.2, entry) ∈ seen) (candidate : entry.Candidate)
    (least : ∀ other ∈ seen, other.2.Candidate →
      other = (found.2, entry) ∨ LessUsed (found.2, entry) other)
    (less : LessUsed (found.2, entry) file) : Scanned map (seen ++ [file]) (map, found.2) := by
  refine ⟨rfl, Or.inr ⟨named, entry, by simp [member], candidate, ?_⟩⟩
  intro other listed considered
  rcases List.mem_append.mp listed with before | last
  · exact least other before considered
  · rw [List.mem_singleton.mp last]
    exact Or.inr less

theorem LessUsed.of_fewer {first second third : String × FileMeta}
    (fewer : first.2.accessCount < second.2.accessCount)
    (less : third = second ∨ LessUsed second third) : LessUsed first third := by
  rcases less with same | fewerAgain | ⟨equal, _⟩
  · exact Or.inl (same ▸ fewer)
  · exact Or.inl (UInt64.lt_trans fewer fewerAgain)
  · exact Or.inl (equal ▸ fewer)

theorem Scanned.step (scanned : Scanned map seen found)
    (stored : ∀ other ∈ seen, map[other.1]? = some other.2)
    (ordered : ∀ other ∈ seen, other.1 < file.1) (named : file.1 ≠ "") :
    Scanned map (seen ++ [file]) (victimScan found file) := by
  unfold victimScan
  split
  · rename_i considered
    rcases scanned.least with ⟨empty, none⟩ | ⟨known, entry, member, candidate, least⟩
    · rw [if_pos empty, scanned.same]
      exact scanned_take named considered fun other listed candidate =>
        absurd candidate (none other listed)
    · have lookup : OrderedMap.index found.1 found.2 = (entry, map) := by
        rw [scanned.same]
        exact OrderedMap.index_of_some (stored _ member)
      simp only [if_neg known, lookup]
      split
      · rename_i fewer
        exact scanned_take named considered fun other listed candidate =>
          LessUsed.of_fewer fewer (least other listed candidate)
      · rename_i notFewer
        refine scanned_keep known member candidate least ?_
        rcases UInt64.lt_or_eq_of_le (UInt64.not_lt.mp notFewer) with fewer | equal
        · exact Or.inl fewer
        · exact Or.inr ⟨equal, ordered _ member⟩
  · rename_i passed
    exact scanned.skip passed

theorem Scanned.foldl {rest : List (String × FileMeta)} (scanned : Scanned map seen found)
    (stored : ∀ other ∈ seen ++ rest, map[other.1]? = some other.2)
    (ordered : (seen ++ rest).Pairwise fun first second => first.1 < second.1)
    (named : ∀ other ∈ rest, other.1 ≠ "") :
    Scanned map (seen ++ rest) (rest.foldl victimScan found) := by
  induction rest generalizing seen found with
  | nil => simpa using scanned
  | cons file rest ih =>
      have earlier := (List.pairwise_append.mp ordered).2.2
      have next : Scanned map (seen ++ [file]) (victimScan found file) :=
        scanned.step (fun other listed => stored other (by simp [listed]))
          (fun other listed => earlier other listed file (by simp)) (named file (by simp))
      rw [List.foldl_cons, List.append_cons]
      refine ih next ?_ ?_ ?_
      · rwa [← List.append_cons]
      · rwa [← List.append_cons]
      · exact fun other listed => named other (by simp [listed])

end

section
variable {state next final : PolicyState} {path : String} {entry : FileMeta}

theorem mem_toList_iff {file : String × FileMeta} :
    file ∈ state.fileMetaMap.toList ↔ state.fileMetaMap[file.1]? = some file.2 :=
  ExtTreeMap.mem_toList_iff_getElem?_eq_some

theorem selectVictim_least (unnamed : state.fileMetaMap[""]? = none) :
    ((cachePolicySelectVictimForEviction state).1 = "" ∧ ∀ path, ¬ Evictable state path) ∨
    ((cachePolicySelectVictimForEviction state).1 ≠ "" ∧
      Evictable state (cachePolicySelectVictimForEviction state).1 ∧
      ∀ path, Evictable state path → path ≠ (cachePolicySelectVictimForEviction state).1 →
        EvictedBefore state (cachePolicySelectVictimForEviction state).1 path) := by
  have ordered : state.fileMetaMap.toList.Pairwise fun first second => first.1 < second.1 :=
    ExtTreeMap.ordered_keys_toList.imp (compare_eq_lt_iff _ _).mp
  have named : ∀ file ∈ state.fileMetaMap.toList, file.1 ≠ "" := by
    intro file listed empty
    rw [mem_toList_iff, empty, unnamed] at listed
    simp at listed
  have start : Scanned state.fileMetaMap [] (state.fileMetaMap, "") :=
    ⟨rfl, Or.inl ⟨rfl, by simp⟩⟩
  have scanned : Scanned state.fileMetaMap state.fileMetaMap.toList
      (state.fileMetaMap.toList.foldl victimScan (state.fileMetaMap, "")) :=
    start.foldl (fun _ listed => mem_toList_iff.mp listed) ordered named
  rcases scanned.least with ⟨empty, none⟩ | ⟨known, entry, member, candidate, least⟩
  · refine Or.inl ⟨empty, ?_⟩
    rintro path ⟨entry, found, candidate⟩
    exact none (path, entry) (mem_toList_iff.mpr found) candidate
  · have found := mem_toList_iff.mp member
    refine Or.inr ⟨known, ⟨entry, found, candidate⟩, ?_⟩
    rintro path ⟨other, stored, considered⟩ different
    refine ⟨entry, other, found, stored, ?_⟩
    rcases least (path, other) (mem_toList_iff.mpr stored) considered with same | less
    · exact absurd (congrArg Prod.fst same) different
    · exact less

/-! Selection and removal in turn. -/

theorem removeFile_candidate (found : state.fileMetaMap[path]? = some entry)
    (candidate : entry.Candidate) :
    cachePolicyRemoveFile state path = some { state with
      fileMetaMap := state.fileMetaMap.erase path
      fsdaxUsedBytes := state.fsdaxUsedBytes - entry.size } := by
  simp [cachePolicyRemoveFile, found, candidate.1]

def EvictsVictim (state : PolicyState) (path : String) (next : PolicyState) : Prop :=
  state.fileMetaMap[""]? = none ∧ (cachePolicySelectVictimForEviction state).1 = path ∧
    path ≠ "" ∧ cachePolicyRemoveFile state path = some next

def NoVictim (state : PolicyState) : Prop :=
  state.fileMetaMap[""]? = none ∧ (cachePolicySelectVictimForEviction state).1 = ""

theorem evictable_of_erased (map : next.fileMetaMap = state.fileMetaMap.erase path)
    (other : String) : Evictable next other ↔ Evictable state other ∧ other ≠ path := by
  simp only [Evictable, map, OrderedMap.getElem?_erase_ite]
  by_cases same : path = other
  · simp [same]
  · simp [same, Ne.symm same]

theorem EvictedBefore.of_erased {former latter : String}
    (map : next.fileMetaMap = state.fileMetaMap.erase path)
    (before : EvictedBefore next former latter) : EvictedBefore state former latter := by
  obtain ⟨first, second, found, stored, less⟩ := before
  rw [map] at found stored
  exact ⟨first, second, (OrderedMap.found_erase found).2, (OrderedMap.found_erase stored).2, less⟩

theorem picksFirst : PicksFirst Evictable EvictedBefore EvictsVictim NoVictim := by
  refine ⟨?_, ?_, ?_, ?_, ?_⟩
  · rintro state path next ⟨unnamed, chosen, named, removed⟩
    have least := (selectVictim_least unnamed).resolve_left (by simp [chosen, named])
    exact chosen ▸ least.2.1
  · rintro state path next other ⟨unnamed, chosen, named, removed⟩ evictable different
    have least := (selectVictim_least unnamed).resolve_left (by simp [chosen, named])
    rw [chosen] at least
    exact least.2.2 other evictable different
  · rintro state path next other ⟨_, _, _, removed⟩
    exact evictable_of_erased (removeFile_map removed) other
  · rintro state path next former latter ⟨_, _, _, removed⟩ before
    exact before.of_erased (removeFile_map removed)
  · rintro state path ⟨unnamed, empty⟩
    rcases selectVictim_least unnamed with ⟨_, none⟩ | ⟨named, _⟩
    · exact none path
    · exact absurd empty named

theorem evictsVictim_progress (unnamed : state.fileMetaMap[""]? = none) :
    NoVictim state ∨ ∃ path next, EvictsVictim state path next ∧
      next.fileMetaMap[""]? = none ∧
      next.fileMetaMap.toList.length < state.fileMetaMap.toList.length := by
  rcases selectVictim_least unnamed with ⟨empty, _⟩ | ⟨named, ⟨entry, found, candidate⟩, _⟩
  · exact Or.inl ⟨unnamed, empty⟩
  · refine Or.inr ⟨_, _, ⟨unnamed, rfl, named, removeFile_candidate found candidate⟩, ?_, ?_⟩
    · simp only [OrderedMap.getElem?_erase_ite, unnamed, ite_self]
    · have parted := (OrderedMap.toList_perm_cons_erase found).length_eq
      rw [parted, List.length_cons]
      exact Nat.lt_succ_self _

end

/-- Selection and removal of the victim until the selection returns no path, as a caller
would repeat them; `none` is an `exit` or a loop that has not come to its end. -/
def drainVictims : Nat → PolicyState → Option (List String × PolicyState)
  | 0, _ => none
  | fuel + 1, state =>
      let (victimPath, state) := cachePolicySelectVictimForEviction state
      if victimPath = "" then some ([], state)
      else
        match cachePolicyRemoveFile state victimPath with
        | none => none
        | some state =>
            match drainVictims fuel state with
            | none => none
            | some (later, final) => some (victimPath :: later, final)

section
variable {state final : PolicyState} {paths : List String}

theorem drainVictims_of_drained (drained : Drained EvictsVictim NoVictim state paths final)
    {fuel : Nat} (enough : paths.length < fuel) :
    drainVictims fuel state = some (paths, final) := by
  induction drained generalizing fuel with
  | nil stopped =>
      rename_i state
      cases fuel with
      | zero => omega
      | succ fuel => simp only [drainVictims, (selectVictim_keeps state).1, stopped.2, if_true]
  | cons picked rest ih =>
      rename_i state next final path paths
      obtain ⟨_, chosen, named, removed⟩ := picked
      cases fuel with
      | zero => omega
      | succ fuel =>
          rw [List.length_cons] at enough
          have later : drainVictims fuel next = some (paths, final) := ih (by omega)
          simp only [drainVictims, (selectVictim_keeps state).1, chosen, if_neg named, removed,
            later]

theorem evictsVictim_ssdUsed (picked : EvictsVictim state path next) :
    next.ssdUsedBytes = state.ssdUsedBytes := by
  obtain ⟨entry, found, candidate⟩ := picksFirst.member _ _ _ picked
  have removed := picked.2.2.2
  rw [removeFile_candidate found candidate, Option.some.injEq] at removed
  rw [← removed]

theorem drained_ssdUsed (drained : Drained EvictsVictim NoVictim state paths final) :
    final.ssdUsedBytes = state.ssdUsedBytes := by
  have preserved : ∀ before path after, before.ssdUsedBytes = state.ssdUsedBytes →
      EvictsVictim before path after → after.ssdUsedBytes = state.ssdUsedBytes :=
    fun before path after kept picked => (evictsVictim_ssdUsed picked).trans kept
  exact drained.invariant preserved rfl

theorem drained_map (drained : Drained EvictsVictim NoVictim state paths final) :
    ∀ path, final.fileMetaMap[path]? = if path ∈ paths then none else state.fileMetaMap[path]? := by
  induction drained with
  | nil stopped => simp
  | cons picked rest ih =>
      rename_i state next final path paths
      intro other
      rw [ih other, removeFile_map picked.2.2.2, OrderedMap.getElem?_erase_ite]
      by_cases later : other ∈ paths
      · simp [later]
      · by_cases same : other = path
        · simp [same]
        · simp [later, same, Ne.symm same]

end

/-- `paths` are the closed files of the PM tier, each once, by number of accesses and then
by path. In the end no victim is left and nothing else has changed. -/
structure DrainedInOrder (state : PolicyState) (paths : List String) (final : PolicyState) :
    Prop where
  mem_iff : ∀ path, path ∈ paths ↔ ∃ entry, state.fileMetaMap[path]? = some entry ∧
    entry.currentTier = .fsdax ∧ entry.isOpen = false
  nodup : paths.Nodup
  ordered : paths.Pairwise (EvictedBefore state)
  last : (cachePolicySelectVictimForEviction final).1 = ""
  removed : ∀ path ∈ paths, final.fileMetaMap[path]? = none
  others : ∀ path ∉ paths, final.fileMetaMap[path]? = state.fileMetaMap[path]?
  ssdUsed : final.ssdUsedBytes = state.ssdUsedBytes

/-- Repeated selection and removal come to an end and go through the closed files of the
PM tier in order; the selection itself never changes the state. -/
theorem victims_drain_in_order (state : PolicyState) (unnamed : state.fileMetaMap[""]? = none) :
    (∃ paths final, DrainedInOrder state paths final ∧
      ∀ fuel, paths.length < fuel → drainVictims fuel state = some (paths, final)) ∧
    ∀ other : PolicyState, (cachePolicySelectVictimForEviction other).2 = other := by
  refine ⟨?_, fun other => (selectVictim_keeps other).1⟩
  obtain ⟨paths, final, drained⟩ := exists_drained
    (fun state : PolicyState => state.fileMetaMap.toList.length)
    (fun _ => evictsVictim_progress) unnamed
  have left := drained_map drained
  refine ⟨paths, final, ⟨picksFirst.mem_iff drained, picksFirst.nodup drained,
    picksFirst.pairwise drained, drained.stopped.2, ?_, ?_, drained_ssdUsed drained⟩,
    fun _ enough => drainVictims_of_drained drained enough⟩
  · intro path member
    rw [left, if_pos member]
  · intro path absent
    rw [left, if_neg absent]

def closedFiles : List PolicyCall := [
  .addFile "a" 1, .addFile "c" 1, .addFile "b" 1, .addFile "d" 1, .updateAccess "a",
  .setOpenState "a" false, .setOpenState "b" false, .setOpenState "c" false
]

theorem victims_drain_in_order_closedFiles : ∃ state,
    run policyStep (emptyPolicy 8 8) closedFiles = some state ∧
    (∃ paths final, DrainedInOrder state paths final ∧
      ∀ fuel, paths.length < fuel → drainVictims fuel state = some (paths, final)) := by
  have reached : ((run policyStep (emptyPolicy 8 8) closedFiles).map
      fun state => state.fileMetaMap[""]?) = some none := by decide
  obtain ⟨state, ran, unnamed⟩ := Option.map_eq_some_iff.mp reached
  exact ⟨state, ran, (victims_drain_in_order state unnamed).1⟩

example : ((run policyStep (emptyPolicy 8 8) closedFiles).bind fun state =>
    (drainVictims 4 state).map Prod.fst) = some ["b", "c", "a"] := by decide

/-! Eviction before an addition. -/

section
variable {state next : PolicyState} {path : String} {sizeBytes : UInt64}

theorem evictIfNeeded_idle (filled : state.fsdaxUsedBytes ≤ state.fsdaxCapacityBytes) :
    cachePolicyEvictIfNeeded state = some (0, state) := if_pos filled

theorem evictIfNeeded_victim (exceeded : ¬ state.fsdaxUsedBytes ≤ state.fsdaxCapacityBytes)
    (named : (cachePolicySelectVictimForEviction state).1 ≠ "")
    (removed : cachePolicyRemoveFile state (cachePolicySelectVictimForEviction state).1 =
      some next) : cachePolicyEvictIfNeeded state = some (0, next) := by
  simp only [cachePolicyEvictIfNeeded, if_neg exceeded, (selectVictim_keeps state).1, if_neg named,
    removed]

theorem fits_placed (missing : state.fileMetaMap[path]? = none)
    (fits : state.Fits .fsdax sizeBytes) :
    cachePolicyGetTier (cachePolicyAddFile state path sizeBytes) path = .fsdax := by
  have sum := UInt64.toNat_add state.fsdaxUsedBytes sizeBytes
  have tight : ¬ 2 ^ 64 ≤ state.fsdaxUsedBytes.toNat + sizeBytes.toNat := fits.not_wraps
  have bound : state.fsdaxUsedBytes.toNat + sizeBytes.toNat ≤ state.fsdaxCapacityBytes.toNat := fits
  have room : state.fsdaxUsedBytes + sizeBytes ≤ state.fsdaxCapacityBytes := by
    rw [UInt64.le_iff_toNat_le]
    omega
  simp [cachePolicyGetTier, addFile_record sizeBytes missing, room, newFileMeta]

theorem placed_iff (sizeBytes : UInt64) (missing : state.fileMetaMap[path]? = none)
    (filled : state.fsdaxUsedBytes ≤ state.fsdaxCapacityBytes) :
    cachePolicyGetTier (cachePolicyAddFile state path sizeBytes) path = .fsdax ↔
      state.Fits .fsdax sizeBytes ∨ state.Wraps .fsdax sizeBytes := by
  have room : state.fsdaxUsedBytes + sizeBytes ≤ state.fsdaxCapacityBytes ↔
      state.Fits .fsdax sizeBytes ∨ state.Wraps .fsdax sizeBytes := room_iff .fsdax filled
  simp only [cachePolicyGetTier, addFile_record sizeBytes missing, ← room]
  by_cases fsdax : state.fsdaxUsedBytes + sizeBytes ≤ state.fsdaxCapacityBytes
  · simp [fsdax, newFileMeta]
  · by_cases ssd : state.ssdUsedBytes + sizeBytes ≤ state.ssdCapacityBytes
    · simp [fsdax, ssd, newFileMeta]
    · simp [fsdax, ssd]

end

structure FitsWithoutVictim (state : PolicyState) (path : String) (sizeBytes : UInt64) : Prop where
  missing : state.fileMetaMap[path]? = none
  crowded : ¬ state.Fits .fsdax sizeBytes
  named : (cachePolicySelectVictimForEviction state).1 ≠ ""
  enough : ∀ next, cachePolicyRemoveFile state (cachePolicySelectVictimForEviction state).1 =
    some next → next.Fits .fsdax sizeBytes

instance (state : PolicyState) (path : String) (sizeBytes : UInt64) :
    Decidable (FitsWithoutVictim state path sizeBytes) :=
  decidable_of_iff (state.fileMetaMap[path]? = none ∧ ¬ state.Fits .fsdax sizeBytes ∧
      (cachePolicySelectVictimForEviction state).1 ≠ "" ∧
      ∀ next ∈ cachePolicyRemoveFile state (cachePolicySelectVictimForEviction state).1,
        next.Fits .fsdax sizeBytes)
    ⟨fun ⟨missing, crowded, named, enough⟩ => ⟨missing, crowded, named, enough⟩,
      fun ⟨missing, crowded, named, enough⟩ => ⟨missing, crowded, named, enough⟩⟩

def EvictionPlaces (state : PolicyState) (path : String) (sizeBytes : UInt64) : Prop :=
  ∃ code evicted, cachePolicyEvictIfNeeded state = some (code, evicted) ∧
    cachePolicyGetTier (cachePolicyAddFile evicted path sizeBytes) path = .fsdax

/-- Eviction makes room for the file exactly when the PM tier was over its capacity before,
or when the sum in the room test of the addition wraps. -/
theorem eviction_makes_room (state : PolicyState) (path : String) (sizeBytes : UInt64)
    (fitting : FitsWithoutVictim state path sizeBytes) :
    EvictionPlaces state path sizeBytes ↔
      state.fsdaxCapacityBytes < state.fsdaxUsedBytes ∨ state.Wraps .fsdax sizeBytes := by
  obtain ⟨missing, crowded, named, enough⟩ := fitting
  by_cases filled : state.fsdaxUsedBytes ≤ state.fsdaxCapacityBytes
  · have notOver : ¬ state.fsdaxCapacityBytes < state.fsdaxUsedBytes := UInt64.not_lt.mpr filled
    simp only [EvictionPlaces, evictIfNeeded_idle filled, Option.some.injEq, Prod.mk.injEq,
      notOver, false_or]
    have placed := placed_iff sizeBytes missing filled
    constructor
    · rintro ⟨code, evicted, ⟨_, same⟩, fsdax⟩
      subst evicted
      exact (placed.mp fsdax).resolve_left crowded
    · intro wraps
      exact ⟨0, state, ⟨rfl, rfl⟩, placed.mpr (Or.inr wraps)⟩
  · have exceeded : state.fsdaxCapacityBytes < state.fsdaxUsedBytes := UInt64.not_le.mp filled
    have registered := ((selectVictim_keeps state).2).resolve_left named
    obtain ⟨next, removed⟩ := Option.isSome_iff_exists.mp (removeFile_isSome.trans registered)
    have gone : next.fileMetaMap[path]? = none := by
      rw [removeFile_map removed, OrderedMap.getElem?_erase_ite]
      simp [missing]
    refine iff_of_true ?_ (Or.inl exceeded)
    exact ⟨0, next, evictIfNeeded_victim filled named removed,
      fits_placed gone (enough next removed)⟩

def overfull : List PolicyCall := [
  .addFile "a" 8, .addFile "b" 0xfffffffffffffffc, .removeFile "a", .setOpenState "b" false
]

theorem eviction_makes_room_overfull : ∃ state,
    run policyStep (emptyPolicy 10 0) overfull = some state ∧ EvictionPlaces state "c" 5 := by
  have reached : (run policyStep (emptyPolicy 10 0) overfull).map (fun state =>
      decide (FitsWithoutVictim state "c" 5 ∧ state.fsdaxCapacityBytes < state.fsdaxUsedBytes)) =
      some true := by decide
  obtain ⟨state, ran, facts⟩ := Option.map_eq_some_iff.mp reached
  obtain ⟨fitting, exceeded⟩ := of_decide_eq_true facts
  exact ⟨state, ran, (eviction_makes_room state "c" 5 fitting).mpr (Or.inl exceeded)⟩

theorem eviction_does_nothing : ¬ ∀ (calls : List PolicyCall) (state : PolicyState)
    (path : String) (sizeBytes : UInt64),
    run policyStep (emptyPolicy 8 8) calls = some state →
    FitsWithoutVictim state path sizeBytes → EvictionPlaces state path sizeBytes := by
  intro places
  have reached : (run policyStep (emptyPolicy 8 8) [.addFile "a" 6, .setOpenState "a" false]).map
      (fun state => decide (FitsWithoutVictim state "c" 4 ∧
        (cachePolicyEvictIfNeeded state).map (fun evicted =>
          cachePolicyGetTier (cachePolicyAddFile evicted.2 "c" 4) "c") = some .ssd)) =
      some true := by decide
  obtain ⟨state, ran, facts⟩ := Option.map_eq_some_iff.mp reached
  obtain ⟨fitting, ssd⟩ := of_decide_eq_true facts
  obtain ⟨code, evicted, returned, fsdax⟩ := places _ state "c" 4 ran fitting
  rw [returned, Option.map_some, Option.some.injEq, fsdax] at ssd
  exact absurd ssd (by decide)

end HvacCache
