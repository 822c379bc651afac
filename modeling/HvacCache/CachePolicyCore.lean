import HvacCache.Library.OrderedMap
import HvacCache.Library.Transition

/-! The tiered cache policy of `hvac_cache_policy.cpp`. Every operation takes the
global state explicitly; `none` is a call that ends the process with `exit(-1)`.
The lock taken by each operation is not part of this state. -/

namespace HvacCache

inductive CacheTier
  | fsdax
  | ssd
  | pfs
  | unknown
deriving DecidableEq, Repr

structure FileMeta where
  path : String
  currentTier : CacheTier
  size : UInt64
  accessCount : UInt64
  isOpen : Bool
deriving DecidableEq, Repr

/-- The zero-initialised record that indexing a missing path would insert. -/
instance : Inhabited FileMeta := ⟨{
  path := ""
  currentTier := .fsdax
  size := 0
  accessCount := 0
  isOpen := false
}⟩

structure PolicyState where
  fileMetaMap : OrderedMap String FileMeta
  fsdaxCapacityBytes : UInt64
  ssdCapacityBytes : UInt64
  fsdaxUsedBytes : UInt64
  ssdUsedBytes : UInt64

def emptyPolicy (fsdaxCapacityBytes ssdCapacityBytes : UInt64) : PolicyState := {
  fileMetaMap := ∅
  fsdaxCapacityBytes
  ssdCapacityBytes
  fsdaxUsedBytes := 0
  ssdUsedBytes := 0
}

def newFileMeta (path : String) (sizeBytes : UInt64) (tier : CacheTier) : FileMeta := {
  path
  currentTier := tier
  size := sizeBytes
  accessCount := 0
  isOpen := true
}

def cachePolicyAddFile (state : PolicyState) (path : String) (sizeBytes : UInt64) : PolicyState :=
  if state.fileMetaMap[path]?.isSome then state
  else if state.fsdaxUsedBytes + sizeBytes ≤ state.fsdaxCapacityBytes then
    { state with
      fsdaxUsedBytes := state.fsdaxUsedBytes + sizeBytes
      fileMetaMap := state.fileMetaMap.insert path (newFileMeta path sizeBytes .fsdax) }
  else if state.ssdUsedBytes + sizeBytes ≤ state.ssdCapacityBytes then
    { state with
      ssdUsedBytes := state.ssdUsedBytes + sizeBytes
      fileMetaMap := state.fileMetaMap.insert path (newFileMeta path sizeBytes .ssd) }
  else state

def cachePolicyUpdateAccess (state : PolicyState) (path : String) : PolicyState :=
  match state.fileMetaMap[path]? with
  | none => state
  | some entry =>
      { state with
        fileMetaMap := state.fileMetaMap.insert path
          { entry with accessCount := entry.accessCount + 1 } }

/-- The eviction branch of `cache_policy_update_tier`: a full SSD is fatal. -/
def moveToSsd (state : PolicyState) (path : String) (entry : FileMeta) : Option PolicyState :=
  if entry.currentTier = .fsdax then
    if state.ssdUsedBytes + entry.size ≤ state.ssdCapacityBytes then
      some { state with
        ssdUsedBytes := state.ssdUsedBytes + entry.size
        fsdaxUsedBytes := state.fsdaxUsedBytes - entry.size
        fileMetaMap := state.fileMetaMap.insert path { entry with currentTier := .ssd } }
    else none
  else some state

/-- The prefetch branch of `cache_policy_update_tier`: a full PM tier is only logged. -/
def moveToFsdax (state : PolicyState) (path : String) (entry : FileMeta) : PolicyState :=
  if entry.currentTier = .ssd then
    if state.fsdaxUsedBytes + entry.size ≤ state.fsdaxCapacityBytes then
      { state with
        fsdaxUsedBytes := state.fsdaxUsedBytes + entry.size
        ssdUsedBytes := state.ssdUsedBytes - entry.size
        fileMetaMap := state.fileMetaMap.insert path { entry with currentTier := .fsdax } }
    else state
  else state

def cachePolicyUpdateTier (state : PolicyState) (path : String) (newTier : CacheTier) :
    Option PolicyState :=
  match state.fileMetaMap[path]? with
  | none => some state
  | some entry =>
      if entry.currentTier = newTier then some state
      else
        match newTier with
        | .ssd => moveToSsd state path entry
        | .fsdax => some (moveToFsdax state path entry)
        | .pfs | .unknown => some state

def cachePolicySetOpenState (state : PolicyState) (path : String) (isOpen : Bool) :
    Option PolicyState :=
  match state.fileMetaMap[path]? with
  | none => none
  | some entry =>
      some { state with fileMetaMap := state.fileMetaMap.insert path { entry with isOpen } }

def cachePolicyGetTier (state : PolicyState) (path : String) : CacheTier :=
  match state.fileMetaMap[path]? with
  | none => .unknown
  | some entry => entry.currentTier

/-- One iteration of the scan. The current candidate is looked up again with the
indexing operator, which would insert a record for a missing path. -/
def victimScan (found : OrderedMap String FileMeta × String) (file : String × FileMeta) :
    OrderedMap String FileMeta × String :=
  if file.2.currentTier = .fsdax ∧ file.2.isOpen = false then
    if found.2 = "" then (found.1, file.1)
    else
      let candidate := OrderedMap.index found.1 found.2
      if file.2.accessCount < candidate.1.accessCount then (candidate.2, file.1)
      else (candidate.2, found.2)
  else found

def cachePolicySelectVictimForEviction (state : PolicyState) : String × PolicyState :=
  let found := state.fileMetaMap.toList.foldl victimScan (state.fileMetaMap, "")
  (found.2, { state with fileMetaMap := found.1 })

def cachePolicyRemoveFile (state : PolicyState) (path : String) : Option PolicyState :=
  match state.fileMetaMap[path]? with
  | none => none
  | some entry =>
      let fileMetaMap := state.fileMetaMap.erase path
      match entry.currentTier with
      | .fsdax =>
          some { state with fileMetaMap, fsdaxUsedBytes := state.fsdaxUsedBytes - entry.size }
      | .ssd => some { state with fileMetaMap, ssdUsedBytes := state.ssdUsedBytes - entry.size }
      | .pfs | .unknown => some { state with fileMetaMap }

def cachePolicyEvictIfNeeded (state : PolicyState) : Option (Int × PolicyState) :=
  if state.fsdaxUsedBytes ≤ state.fsdaxCapacityBytes then some (0, state)
  else
    let (victimPath, state) := cachePolicySelectVictimForEviction state
    if victimPath = "" then some (-1, state)
    else
      match cachePolicyRemoveFile state victimPath with
      | none => none
      | some state => some (0, state)

def cachePolicyGetUsageBytes (state : PolicyState) : UInt64 × UInt64 :=
  (state.fsdaxUsedBytes, state.ssdUsedBytes)

inductive PolicyCall
  | addFile (path : String) (sizeBytes : UInt64)
  | updateAccess (path : String)
  | updateTier (path : String) (newTier : CacheTier)
  | setOpenState (path : String) (isOpen : Bool)
  | removeFile (path : String)
  | evictIfNeeded
deriving DecidableEq, Repr

def policyStep (state : PolicyState) : PolicyCall → Option PolicyState
  | .addFile path sizeBytes => some (cachePolicyAddFile state path sizeBytes)
  | .updateAccess path => some (cachePolicyUpdateAccess state path)
  | .updateTier path newTier => cachePolicyUpdateTier state path newTier
  | .setOpenState path isOpen => cachePolicySetOpenState state path isOpen
  | .removeFile path => cachePolicyRemoveFile state path
  | .evictIfNeeded => (cachePolicyEvictIfNeeded state).map Prod.snd

end HvacCache
