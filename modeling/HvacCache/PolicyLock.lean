import HvacCache.CachePolicy
import HvacCache.Library.LockGuard

/-! The cache policy with its mutex. Every operation takes `g_cacheMutex` for its whole
scope, and `cache_policy_evict_if_needed` calls two of the others in that scope. -/

namespace HvacCache

open LockGuard Transition

def locking {Result : Type} (act : PolicyState → Option (Result × PolicyState)) :
    Code PolicyState Result := guarded (plain act)

def unitResult (act : PolicyState → Option PolicyState) (state : PolicyState) :
    Option (Unit × PolicyState) := (act state).map fun next => ((), next)

def lockedAddFile (path : String) (sizeBytes : UInt64) : Code PolicyState Unit :=
  locking (unitResult fun state => some (cachePolicyAddFile state path sizeBytes))

def lockedUpdateAccess (path : String) : Code PolicyState Unit :=
  locking (unitResult fun state => some (cachePolicyUpdateAccess state path))

def lockedUpdateTier (path : String) (newTier : CacheTier) : Code PolicyState Unit :=
  locking (unitResult fun state => cachePolicyUpdateTier state path newTier)

def lockedSetOpenState (path : String) (isOpen : Bool) : Code PolicyState Unit :=
  locking (unitResult fun state => cachePolicySetOpenState state path isOpen)

def lockedGetTier (path : String) : Code PolicyState CacheTier :=
  locking fun state => some (cachePolicyGetTier state path, state)

def lockedSelectVictimForEviction : Code PolicyState String :=
  locking fun state => some (cachePolicySelectVictimForEviction state)

def lockedRemoveFile (path : String) : Code PolicyState Unit :=
  locking (unitResult fun state => cachePolicyRemoveFile state path)

def lockedGetUsageBytes : Code PolicyState (UInt64 × UInt64) :=
  locking fun state => some (cachePolicyGetUsageBytes state, state)

/-- The calls of the other two functions stand in the scope of the guard. -/
def lockedEvictIfNeeded : Code PolicyState Int := guarded fun held state =>
  if state.fsdaxUsedBytes ≤ state.fsdaxCapacityBytes then .returned 0 state
  else
    andThen lockedSelectVictimForEviction (fun victimPath =>
      if victimPath = "" then ret (-1)
      else andThen (lockedRemoveFile victimPath) fun _ => ret 0) held state

/-- What a thread can call. `cache_policy_init` takes no lock, and may be called again. -/
inductive PolicyRequest
  | init (fsdaxCapacityBytes ssdCapacityBytes : UInt64)
  | call (call : PolicyCall)
  | getTier (path : String)
  | selectVictimForEviction
  | getUsageBytes
deriving DecidableEq, Repr

/-- The results are left out: what matters here is whether the call returns. -/
def PolicyRequest.code : PolicyRequest → Code PolicyState Unit
  | .init fsdaxCapacityBytes ssdCapacityBytes =>
      plain (unitResult fun state => some { state with fsdaxCapacityBytes, ssdCapacityBytes })
  | .call (.addFile path sizeBytes) => lockedAddFile path sizeBytes
  | .call (.updateAccess path) => lockedUpdateAccess path
  | .call (.updateTier path newTier) => lockedUpdateTier path newTier
  | .call (.setOpenState path isOpen) => lockedSetOpenState path isOpen
  | .call (.removeFile path) => lockedRemoveFile path
  | .call .evictIfNeeded => discard lockedEvictIfNeeded
  | .getTier path => discard (lockedGetTier path)
  | .selectVictimForEviction => discard lockedSelectVictimForEviction
  | .getUsageBytes => discard lockedGetUsageBytes

def perform (state : PolicyState) (request : PolicyRequest) : Outcome PolicyState Unit :=
  request.code false state

def performStep (state : PolicyState) (request : PolicyRequest) : Option PolicyState :=
  (perform state request).state?

def EvictsWithin (state : PolicyState) : PolicyRequest → Prop
  | .call .evictIfNeeded => state.fsdaxUsedBytes ≤ state.fsdaxCapacityBytes
  | _ => True

section
variable {state : PolicyState}

theorem locking_ne_deadlocked {Result : Type}
    (act : PolicyState → Option (Result × PolicyState)) :
    locking act false state ≠ .deadlocked := plain_ne_deadlocked act true state

theorem lockedEvictIfNeeded_within (within : state.fsdaxUsedBytes ≤ state.fsdaxCapacityBytes) :
    lockedEvictIfNeeded false state = .returned 0 state := if_pos within

theorem lockedEvictIfNeeded_over (exceeded : ¬ state.fsdaxUsedBytes ≤ state.fsdaxCapacityBytes) :
    lockedEvictIfNeeded false state = .deadlocked := by
  have stuck : lockedSelectVictimForEviction true state = .deadlocked := by
    simp only [lockedSelectVictimForEviction, locking, guarded_held]
  exact (if_neg exceeded).trans (andThen_deadlocked _ stuck)

theorem lockedEvictIfNeeded_deadlocked :
    lockedEvictIfNeeded false state = .deadlocked ↔
      ¬ state.fsdaxUsedBytes ≤ state.fsdaxCapacityBytes := by
  by_cases within : state.fsdaxUsedBytes ≤ state.fsdaxCapacityBytes
  · simp [lockedEvictIfNeeded_within within, within]
  · simp [lockedEvictIfNeeded_over within, within]

theorem perform_deadlocked (request : PolicyRequest) :
    perform state request = .deadlocked ↔ ¬ EvictsWithin state request := by
  cases request with
  | call call =>
      cases call with
      | evictIfNeeded =>
          exact (discard_deadlocked _ _ _).trans lockedEvictIfNeeded_deadlocked
      | addFile path sizeBytes =>
          simp [EvictsWithin, perform, PolicyRequest.code, lockedAddFile, locking_ne_deadlocked]
      | updateAccess path =>
          simp [EvictsWithin, perform, PolicyRequest.code, lockedUpdateAccess,
            locking_ne_deadlocked]
      | updateTier path newTier =>
          simp [EvictsWithin, perform, PolicyRequest.code, lockedUpdateTier, locking_ne_deadlocked]
      | setOpenState path isOpen =>
          simp [EvictsWithin, perform, PolicyRequest.code, lockedSetOpenState,
            locking_ne_deadlocked]
      | removeFile path =>
          simp [EvictsWithin, perform, PolicyRequest.code, lockedRemoveFile, locking_ne_deadlocked]
  | init fsdaxCapacityBytes ssdCapacityBytes =>
      simp [EvictsWithin, perform, PolicyRequest.code, plain_ne_deadlocked]
  | getTier path =>
      simp [EvictsWithin, perform, PolicyRequest.code, discard_deadlocked, lockedGetTier,
        locking_ne_deadlocked]
  | selectVictimForEviction =>
      simp [EvictsWithin, perform, PolicyRequest.code, discard_deadlocked,
        lockedSelectVictimForEviction, locking_ne_deadlocked]
  | getUsageBytes =>
      simp [EvictsWithin, perform, PolicyRequest.code, discard_deadlocked, lockedGetUsageBytes,
        locking_ne_deadlocked]

theorem locking_state? (act : PolicyState → Option PolicyState) :
    (locking (unitResult act) false state).state? = act state := by
  rw [locking, guarded_free, state?_plain]
  simp [unitResult, Function.comp_def]

theorem performStep_call (call : PolicyCall) (within : EvictsWithin state (.call call)) :
    performStep state (.call call) = policyStep state call := by
  cases call with
  | evictIfNeeded =>
      have filled : state.fsdaxUsedBytes ≤ state.fsdaxCapacityBytes := within
      rw [performStep, perform, PolicyRequest.code, state?_discard,
        lockedEvictIfNeeded_within filled]
      simp [Outcome.state?, policyStep, cachePolicyEvictIfNeeded, filled]
  | addFile path sizeBytes =>
      exact locking_state? fun state => some (cachePolicyAddFile state path sizeBytes)
  | updateAccess path => exact locking_state? fun state => some (cachePolicyUpdateAccess state path)
  | updateTier path newTier =>
      exact locking_state? fun state => cachePolicyUpdateTier state path newTier
  | setOpenState path isOpen =>
      exact locking_state? fun state => cachePolicySetOpenState state path isOpen
  | removeFile path => exact locking_state? fun state => cachePolicyRemoveFile state path

end

def NeverWaitsForItself (start : PolicyState) (requests : List PolicyRequest) : Prop :=
  ∀ before request after reached, requests = before ++ request :: after →
    run performStep start before = some reached → perform reached request ≠ .deadlocked

/-- A run of calls from one thread never waits for its own mutex exactly when eviction is
only called while the PM tier is within its capacity. -/
theorem no_self_deadlock (requests : List PolicyRequest) :
    NeverWaitsForItself (emptyPolicy 0 0) requests ↔
      Meets performStep EvictsWithin (emptyPolicy 0 0) requests := by
  rw [meets_iff_forall]
  constructor
  · intro never before request after reached parted ran
    have free := never before request after reached parted ran
    rwa [ne_eq, perform_deadlocked, not_not] at free
  · intro within before request after reached parted ran
    rw [ne_eq, perform_deadlocked, not_not]
    exact within before request after reached parted ran

theorem eviction_waits_for_itself :
    ¬ ∀ requests, NeverWaitsForItself (emptyPolicy 0 0) requests := by
  intro never
  have reached : (run performStep (emptyPolicy 0 0)
      [.init 8 8, .call (.addFile "a" 6), .init 4 8]).map (fun state =>
        decide (state.fsdaxUsedBytes ≤ state.fsdaxCapacityBytes)) = some false := by decide
  obtain ⟨state, ran, exceeded⟩ := Option.map_eq_some_iff.mp reached
  exact never [.init 8 8, .call (.addFile "a" 6), .init 4 8, .call .evictIfNeeded] _ _ [] state rfl
    ran ((perform_deadlocked (.call .evictIfNeeded)).mpr fun within =>
      of_decide_eq_false exceeded within)

end HvacCache
