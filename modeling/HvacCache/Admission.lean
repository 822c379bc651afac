import HvacCache.CachePolicy

/-! The admission of a new file: how the room tests of `cache_policy_add_file` compare
with sums of natural numbers, and what a batch of additions does to an empty enough PM
tier. -/

namespace HvacCache

open Std

def PolicyState.Fits (state : PolicyState) (tier : CacheTier) (sizeBytes : UInt64) : Prop :=
  (state.used tier).toNat + sizeBytes.toNat ≤ (state.capacity tier).toNat

/-- The sum in the room test of the tier does not fit in 64 bits. -/
def PolicyState.Wraps (state : PolicyState) (tier : CacheTier) (sizeBytes : UInt64) : Prop :=
  2 ^ 64 ≤ (state.used tier).toNat + sizeBytes.toNat

instance (state : PolicyState) (tier : CacheTier) (sizeBytes : UInt64) :
    Decidable (state.Fits tier sizeBytes) := inferInstanceAs (Decidable (_ ≤ _))

instance (state : PolicyState) (tier : CacheTier) (sizeBytes : UInt64) :
    Decidable (state.Wraps tier sizeBytes) := inferInstanceAs (Decidable (_ ≤ _))

section
variable {state : PolicyState} {path : String} {sizeBytes : UInt64}

theorem room_iff (tier : CacheTier) (filled : state.used tier ≤ state.capacity tier) :
    state.used tier + sizeBytes ≤ state.capacity tier ↔
      state.Fits tier sizeBytes ∨ state.Wraps tier sizeBytes := by
  have sum := UInt64.toNat_add (state.used tier) sizeBytes
  have bound := UInt64.le_iff_toNat_le.mp filled
  have capacity := (state.capacity tier).toNat_lt
  have size := sizeBytes.toNat_lt
  simp only [UInt64.le_iff_toNat_le, sum, PolicyState.Fits, PolicyState.Wraps]
  omega

theorem PolicyState.Fits.not_wraps {tier : CacheTier} (fits : state.Fits tier sizeBytes) :
    ¬ state.Wraps tier sizeBytes := by
  have capacity := (state.capacity tier).toNat_lt
  simp only [PolicyState.Fits, PolicyState.Wraps] at fits ⊢
  omega

/-! The three ways of an addition. -/

theorem addFile_fsdax (missing : state.fileMetaMap[path]? = none)
    (room : state.fsdaxUsedBytes + sizeBytes ≤ state.fsdaxCapacityBytes) :
    cachePolicyAddFile state path sizeBytes = { state with
      fsdaxUsedBytes := state.fsdaxUsedBytes + sizeBytes
      fileMetaMap := state.fileMetaMap.insert path (newFileMeta path sizeBytes .fsdax) } := by
  simp [cachePolicyAddFile, missing, room]

theorem addFile_ssd (missing : state.fileMetaMap[path]? = none)
    (full : ¬ state.fsdaxUsedBytes + sizeBytes ≤ state.fsdaxCapacityBytes)
    (room : state.ssdUsedBytes + sizeBytes ≤ state.ssdCapacityBytes) :
    cachePolicyAddFile state path sizeBytes = { state with
      ssdUsedBytes := state.ssdUsedBytes + sizeBytes
      fileMetaMap := state.fileMetaMap.insert path (newFileMeta path sizeBytes .ssd) } := by
  simp [cachePolicyAddFile, missing, full, room]

theorem addFile_refused (missing : state.fileMetaMap[path]? = none)
    (full : ¬ state.fsdaxUsedBytes + sizeBytes ≤ state.fsdaxCapacityBytes)
    (ssdFull : ¬ state.ssdUsedBytes + sizeBytes ≤ state.ssdCapacityBytes) :
    cachePolicyAddFile state path sizeBytes = state := by
  simp [cachePolicyAddFile, missing, full, ssdFull]

theorem addFile_record (sizeBytes : UInt64) (missing : state.fileMetaMap[path]? = none) :
    (cachePolicyAddFile state path sizeBytes).fileMetaMap[path]? =
      if state.fsdaxUsedBytes + sizeBytes ≤ state.fsdaxCapacityBytes then
        some (newFileMeta path sizeBytes .fsdax)
      else if state.ssdUsedBytes + sizeBytes ≤ state.ssdCapacityBytes then
        some (newFileMeta path sizeBytes .ssd)
      else none := by
  split
  · rename_i room
    simp [addFile_fsdax missing room]
  · rename_i full
    split
    · rename_i room
      simp [addFile_ssd missing full room]
    · rename_i ssdFull
      simp [addFile_refused missing full ssdFull, missing]

theorem addFile_filled (sizeBytes : UInt64) (missing : state.fileMetaMap[path]? = none)
    (fsdaxFilled : state.fsdaxUsedBytes ≤ state.fsdaxCapacityBytes)
    (ssdFilled : state.ssdUsedBytes ≤ state.ssdCapacityBytes) :
    (cachePolicyAddFile state path sizeBytes).fsdaxUsedBytes ≤
        (cachePolicyAddFile state path sizeBytes).fsdaxCapacityBytes ∧
      (cachePolicyAddFile state path sizeBytes).ssdUsedBytes ≤
        (cachePolicyAddFile state path sizeBytes).ssdCapacityBytes := by
  by_cases room : state.fsdaxUsedBytes + sizeBytes ≤ state.fsdaxCapacityBytes
  · rw [addFile_fsdax missing room]
    exact ⟨room, ssdFilled⟩
  · by_cases ssdRoom : state.ssdUsedBytes + sizeBytes ≤ state.ssdCapacityBytes
    · rw [addFile_ssd missing room ssdRoom]
      exact ⟨fsdaxFilled, ssdRoom⟩
    · rw [addFile_refused missing room ssdRoom]
      exact ⟨fsdaxFilled, ssdFilled⟩

end

/-- An addition puts the file in the PM tier when it fits there, else in the SSD tier when
it fits there, else nowhere, and leaves no tier over its capacity. -/
structure ExactAdmission (state : PolicyState) (path : String) (sizeBytes : UInt64) : Prop where
  fsdax : cachePolicyGetTier (cachePolicyAddFile state path sizeBytes) path = .fsdax ↔
    state.Fits .fsdax sizeBytes
  ssd : cachePolicyGetTier (cachePolicyAddFile state path sizeBytes) path = .ssd ↔
    ¬ state.Fits .fsdax sizeBytes ∧ state.Fits .ssd sizeBytes
  refused : (cachePolicyAddFile state path sizeBytes).fileMetaMap[path]? = none ↔
    ¬ state.Fits .fsdax sizeBytes ∧ ¬ state.Fits .ssd sizeBytes
  filled : (cachePolicyAddFile state path sizeBytes).fsdaxUsedBytes ≤
      (cachePolicyAddFile state path sizeBytes).fsdaxCapacityBytes ∧
    (cachePolicyAddFile state path sizeBytes).ssdUsedBytes ≤
      (cachePolicyAddFile state path sizeBytes).ssdCapacityBytes

theorem room_test_exact (state : PolicyState) (path : String) (sizeBytes : UInt64)
    (fsdaxFilled : state.fsdaxUsedBytes ≤ state.fsdaxCapacityBytes)
    (ssdFilled : state.ssdUsedBytes ≤ state.ssdCapacityBytes)
    (missing : state.fileMetaMap[path]? = none) :
    ExactAdmission state path sizeBytes ↔
      ¬ state.Wraps .fsdax sizeBytes ∧
        (state.Fits .fsdax sizeBytes ∨ ¬ state.Wraps .ssd sizeBytes) := by
  have fsdaxRoom : state.fsdaxUsedBytes + sizeBytes ≤ state.fsdaxCapacityBytes ↔
      state.Fits .fsdax sizeBytes ∨ state.Wraps .fsdax sizeBytes := room_iff .fsdax fsdaxFilled
  have ssdRoom : state.ssdUsedBytes + sizeBytes ≤ state.ssdCapacityBytes ↔
      state.Fits .ssd sizeBytes ∨ state.Wraps .ssd sizeBytes := room_iff .ssd ssdFilled
  have record := addFile_record sizeBytes missing
  simp only [fsdaxRoom, ssdRoom] at record
  constructor
  · intro exact
    have fsdaxPlaced := exact.fsdax
    have ssdPlaced := exact.ssd
    simp only [cachePolicyGetTier, record] at fsdaxPlaced ssdPlaced
    constructor
    · intro wraps
      have fits := fsdaxPlaced.mp (by simp [wraps, newFileMeta])
      exact fits.not_wraps wraps
    · by_contra wrong
      simp only [not_or, not_not] at wrong
      obtain ⟨full, wraps⟩ := wrong
      have tight : ¬ state.Wraps .fsdax sizeBytes := fun wraps =>
        full (fsdaxPlaced.mp (by simp [wraps, newFileMeta]))
      have fits := (ssdPlaced.mp (by simp [full, tight, wraps, newFileMeta])).2
      exact fits.not_wraps wraps
  · rintro ⟨tight, decided⟩
    have filled := addFile_filled sizeBytes missing fsdaxFilled ssdFilled
    by_cases fits : state.Fits .fsdax sizeBytes
    · constructor <;> simp [cachePolicyGetTier, record, fits, newFileMeta, filled]
    · have ssdTight := decided.resolve_left fits
      by_cases ssdFits : state.Fits .ssd sizeBytes
      · constructor <;>
          simp [cachePolicyGetTier, record, fits, tight, ssdFits, newFileMeta, filled]
      · constructor <;>
          simp [cachePolicyGetTier, record, fits, tight, ssdFits, ssdTight, filled]

def nearlyFull : PolicyState :=
  cachePolicyAddFile (cachePolicyAddFile (emptyPolicy 8 8) "a" 6) "b" 7

theorem room_test_exact_nearlyFull : ExactAdmission nearlyFull "c" 2 :=
  (room_test_exact nearlyFull "c" 2 (by decide) (by decide) (by decide)).mpr
    ⟨by decide, Or.inl (by decide)⟩

theorem huge_file_admitted : ¬ ∀ (state : PolicyState) (path : String) (sizeBytes : UInt64),
    state.fsdaxUsedBytes ≤ state.fsdaxCapacityBytes →
    state.ssdUsedBytes ≤ state.ssdCapacityBytes → state.fileMetaMap[path]? = none →
    ExactAdmission state path sizeBytes := by
  intro exact
  have placed := (exact nearlyFull "c" 0xffffffffffffffff (by decide) (by decide) (by decide)).fsdax
  revert placed
  decide

/-! A batch of additions that fits in the PM tier. -/

def addFiles (state : PolicyState) (files : List (String × UInt64)) : PolicyState :=
  files.foldl (fun state file => cachePolicyAddFile state file.1 file.2) state

def totalBytes (files : List (String × UInt64)) : Nat :=
  (files.map fun file => file.2.toNat).sum

structure FitsTogether (state : PolicyState) (files : List (String × UInt64)) : Prop where
  distinct : (files.map Prod.fst).Nodup
  fresh : ∀ file ∈ files, state.fileMetaMap[file.1]? = none
  room : state.fsdaxUsedBytes.toNat + totalBytes files ≤ state.fsdaxCapacityBytes.toNat

section
variable {state : PolicyState} {path : String} {sizeBytes : UInt64}
  {files : List (String × UInt64)}

theorem FitsTogether.first (fits : FitsTogether state ((path, sizeBytes) :: files)) :
    cachePolicyAddFile state path sizeBytes = { state with
      fsdaxUsedBytes := state.fsdaxUsedBytes + sizeBytes
      fileMetaMap := state.fileMetaMap.insert path (newFileMeta path sizeBytes .fsdax) } ∧
    (state.fsdaxUsedBytes + sizeBytes).toNat = state.fsdaxUsedBytes.toNat + sizeBytes.toNat := by
  have room := fits.room
  have capacity := state.fsdaxCapacityBytes.toNat_lt
  have sum := UInt64.toNat_add state.fsdaxUsedBytes sizeBytes
  simp only [totalBytes, List.map_cons, List.sum_cons] at room
  refine ⟨addFile_fsdax (fits.fresh (path, sizeBytes) (by simp)) ?_, by omega⟩
  rw [UInt64.le_iff_toNat_le]
  omega

theorem FitsTogether.rest (fits : FitsTogether state ((path, sizeBytes) :: files)) :
    FitsTogether (cachePolicyAddFile state path sizeBytes) files := by
  obtain ⟨added, sum⟩ := fits.first
  have distinct := List.nodup_cons.mp fits.distinct
  have room := fits.room
  simp only [totalBytes, List.map_cons, List.sum_cons] at room
  rw [added]
  refine ⟨distinct.2, ?_, ?_⟩
  · intro file member
    have different : path ≠ file.1 := by
      intro same
      exact distinct.1 (List.mem_map.mpr ⟨file, member, same.symm⟩)
    simp only [OrderedMap.getElem?_insert_ite, if_neg different]
    exact fits.fresh file (by simp [member])
  · simp only [sum, totalBytes]
    omega

theorem FitsTogether.perm {order : List (String × UInt64)} (fits : FitsTogether state files)
    (perm : order.Perm files) : FitsTogether state order := by
  refine ⟨(perm.map Prod.fst).nodup_iff.mpr fits.distinct, ?_, ?_⟩
  · intro file member
    exact fits.fresh file (perm.mem_iff.mp member)
  · have total : totalBytes order = totalBytes files := (perm.map _).sum_eq
    rw [total]
    exact fits.room

structure BatchAdded (state : PolicyState) (files : List (String × UInt64)) (next : PolicyState) :
    Prop where
  used : next.fsdaxUsedBytes.toNat = state.fsdaxUsedBytes.toNat + totalBytes files
  ssdUsed : next.ssdUsedBytes = state.ssdUsedBytes
  fsdaxCapacity : next.fsdaxCapacityBytes = state.fsdaxCapacityBytes
  ssdCapacity : next.ssdCapacityBytes = state.ssdCapacityBytes
  listed : ∀ file ∈ files, next.fileMetaMap[file.1]? = some (newFileMeta file.1 file.2 .fsdax)
  others : ∀ path ∉ files.map Prod.fst, next.fileMetaMap[path]? = state.fileMetaMap[path]?

theorem FitsTogether.added (fits : FitsTogether state files) :
    BatchAdded state files (addFiles state files) := by
  induction files generalizing state with
  | nil => constructor <;> simp [addFiles, totalBytes]
  | cons file files ih =>
      obtain ⟨path, sizeBytes⟩ := file
      obtain ⟨added, sum⟩ := fits.first
      have batch := ih fits.rest
      have distinct := List.nodup_cons.mp fits.distinct
      have whole : addFiles state ((path, sizeBytes) :: files) =
          addFiles (cachePolicyAddFile state path sizeBytes) files := rfl
      rw [whole]
      rw [added] at batch ⊢
      obtain ⟨used, ssdUsed, fsdaxCapacity, ssdCapacity, listed, others⟩ := batch
      refine ⟨?_, ssdUsed, fsdaxCapacity, ssdCapacity, ?_, ?_⟩
      · simp only [totalBytes, List.map_cons, List.sum_cons, sum] at used ⊢
        omega
      · intro file member
        rcases List.mem_cons.mp member with same | later
        · subst file
          simp [others path distinct.1]
        · exact listed file later
      · intro other absent
        simp only [List.map_cons, List.mem_cons, not_or] at absent
        rw [others other absent.2, OrderedMap.getElem?_insert_ite, if_neg (Ne.symm absent.1)]

theorem BatchAdded.unique {next other : PolicyState} (batch : BatchAdded state files next)
    (again : BatchAdded state files other) : next = other := by
  have map : next.fileMetaMap = other.fileMetaMap := by
    apply ExtTreeMap.ext_getElem?
    intro path
    by_cases member : path ∈ files.map Prod.fst
    · obtain ⟨file, listed, same⟩ := List.mem_map.mp member
      rw [← same, batch.listed file listed, again.listed file listed]
    · rw [batch.others path member, again.others path member]
  have used : next.fsdaxUsedBytes = other.fsdaxUsedBytes :=
    UInt64.toNat_inj.mp (batch.used.trans again.used.symm)
  have ssdUsed := batch.ssdUsed.trans again.ssdUsed.symm
  have fsdaxCapacity := batch.fsdaxCapacity.trans again.fsdaxCapacity.symm
  have ssdCapacity := batch.ssdCapacity.trans again.ssdCapacity.symm
  cases next
  cases other
  simp_all

theorem BatchAdded.perm {next : PolicyState} {order : List (String × UInt64)}
    (batch : BatchAdded state order next) (perm : order.Perm files) :
    BatchAdded state files next := by
  have total : totalBytes order = totalBytes files := (perm.map _).sum_eq
  refine ⟨total ▸ batch.used, batch.ssdUsed, batch.fsdaxCapacity, batch.ssdCapacity, ?_, ?_⟩
  · intro file member
    exact batch.listed file (perm.mem_iff.mpr member)
  · intro path absent
    exact batch.others path fun member => absent ((perm.map Prod.fst).mem_iff.mp member)

end

/-- While the PM tier has room for all of them, the order in which new files are added does
not show in the state: each is in the PM tier, and the earlier entries are as they were. -/
theorem registration_order (state : PolicyState) (files order : List (String × UInt64))
    (distinct : (files.map Prod.fst).Nodup)
    (fresh : ∀ file ∈ files, state.fileMetaMap[file.1]? = none)
    (room : state.fsdaxUsedBytes.toNat + totalBytes files ≤ state.fsdaxCapacityBytes.toNat)
    (perm : order.Perm files) :
    addFiles state order = addFiles state files ∧
    (∀ file ∈ files,
      (addFiles state order).fileMetaMap[file.1]? = some (newFileMeta file.1 file.2 .fsdax)) ∧
    ∀ (path : String) (entry : FileMeta), state.fileMetaMap[path]? = some entry →
      (addFiles state order).fileMetaMap[path]? = some entry := by
  have fits : FitsTogether state files := ⟨distinct, fresh, room⟩
  have batch := (fits.perm perm).added.perm perm
  refine ⟨batch.unique fits.added, batch.listed, ?_⟩
  intro path entry found
  have absent : path ∉ files.map Prod.fst := by
    intro member
    obtain ⟨file, listed, same⟩ := List.mem_map.mp member
    rw [← same, fresh file listed] at found
    simp at found
  rw [batch.others path absent, found]

theorem registration_order_swapped :
    addFiles nearlyFull [("d", 1), ("c", 1)] = addFiles nearlyFull [("c", 1), ("d", 1)] ∧
    (∀ file ∈ [("c", (1 : UInt64)), ("d", 1)],
      (addFiles nearlyFull [("d", 1), ("c", 1)]).fileMetaMap[file.1]? =
        some (newFileMeta file.1 file.2 .fsdax)) ∧
    ∀ (path : String) (entry : FileMeta), nearlyFull.fileMetaMap[path]? = some entry →
      (addFiles nearlyFull [("d", 1), ("c", 1)]).fileMetaMap[path]? = some entry :=
  registration_order nearlyFull [("c", 1), ("d", 1)] [("d", 1), ("c", 1)] (by decide) (by decide)
    (by decide) (List.Perm.swap _ _ _)

end HvacCache
