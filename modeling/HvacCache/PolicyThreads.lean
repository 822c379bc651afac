import HvacCache.PolicyLock
import HvacCache.Library.CriticalSection

/-! The cache policy called from any number of threads. Each function is cut into its accesses
to the globals, and a thread may be stopped between any two of them. -/

namespace HvacCache

open CriticalSection LockGuard Std Transition

inductive PolicyAnswer
  | nothing
  | tier (tier : CacheTier)
  | path (path : String)
  | code (code : Int)
  | usage (pmBytes ssdBytes : UInt64)
deriving DecidableEq, Repr

/-- The functions that take the mutex, which is all of them but `cache_policy_init`. -/
inductive LockedCall
  | call (call : PolicyCall)
  | getTier (path : String)
  | selectVictimForEviction
  | getUsageBytes
deriving DecidableEq, Repr

abbrev PolicyBody := Body PolicyState PolicyAnswer

def entryAt (path : String) (next : FileMeta → PolicyBody) : PolicyBody :=
  .access (fun state => { state with fileMetaMap := (OrderedMap.index state.fileMetaMap path).2 })
    fun state => next (OrderedMap.index state.fileMetaMap path).1

def assignAt (path : String) (change : FileMeta → FileMeta) (next : PolicyBody) : PolicyBody :=
  .write (fun state =>
    let found := OrderedMap.index state.fileMetaMap path
    { state with fileMetaMap := found.2.insert path (change found.1) }) next

def findFile (path : String) (next : Option FileMeta → PolicyBody) : PolicyBody :=
  .read (fun state => state.fileMetaMap[path]?) next

def foundAt (path : String) (next : FileMeta → PolicyBody) : PolicyBody :=
  .read (fun state => (OrderedMap.index state.fileMetaMap path).1) next

def changeFsdaxUsed (change : UInt64 → UInt64) (next : PolicyBody) : PolicyBody :=
  .read PolicyState.fsdaxUsedBytes fun used =>
    .write (fun state => { state with fsdaxUsedBytes := change used }) next

def changeSsdUsed (change : UInt64 → UInt64) (next : PolicyBody) : PolicyBody :=
  .read PolicyState.ssdUsedBytes fun used =>
    .write (fun state => { state with ssdUsedBytes := change used }) next

def insertFile (path : String) (entry : FileMeta) (next : PolicyBody) : PolicyBody :=
  .write (fun state => { state with fileMetaMap := state.fileMetaMap.insert path entry }) next

def addFileBody (path : String) (sizeBytes : UInt64) : PolicyBody :=
  findFile path fun found =>
    if found.isSome then .done .nothing
    else
      .read PolicyState.fsdaxUsedBytes fun used =>
      .read PolicyState.fsdaxCapacityBytes fun capacity =>
        if used + sizeBytes ≤ capacity then
          changeFsdaxUsed (· + sizeBytes) <|
          insertFile path (newFileMeta path sizeBytes .fsdax) <| .done .nothing
        else
          .read PolicyState.ssdUsedBytes fun used =>
          .read PolicyState.ssdCapacityBytes fun capacity =>
            if used + sizeBytes ≤ capacity then
              changeSsdUsed (· + sizeBytes) <|
              insertFile path (newFileMeta path sizeBytes .ssd) <| .done .nothing
            else .done .nothing

def updateAccessBody (path : String) : PolicyBody :=
  findFile path fun found =>
    if found.isNone then .done .nothing
    else
      entryAt path fun entry =>
      assignAt path (fun current => { current with accessCount := entry.accessCount + 1 }) <|
      .done .nothing

/-- Every field of the entry is looked up again. -/
def moveToSsdBody (path : String) : PolicyBody :=
  entryAt path fun entry =>
    if entry.currentTier = .fsdax then
      .read PolicyState.ssdUsedBytes fun used =>
      entryAt path fun sized =>
      .read PolicyState.ssdCapacityBytes fun capacity =>
        if used + sized.size ≤ capacity then
          entryAt path fun added =>
          changeSsdUsed (· + added.size) <|
          entryAt path fun taken =>
          changeFsdaxUsed (· - taken.size) <|
          assignAt path (fun current => { current with currentTier := .ssd }) <| .done .nothing
        else .exit
    else .done .nothing

def moveToFsdaxBody (path : String) : PolicyBody :=
  entryAt path fun entry =>
    if entry.currentTier = .ssd then
      .read PolicyState.fsdaxUsedBytes fun used =>
      entryAt path fun sized =>
      .read PolicyState.fsdaxCapacityBytes fun capacity =>
        if used + sized.size ≤ capacity then
          entryAt path fun added =>
          changeFsdaxUsed (· + added.size) <|
          entryAt path fun taken =>
          changeSsdUsed (· - taken.size) <|
          assignAt path (fun current => { current with currentTier := .fsdax }) <| .done .nothing
        else .done .nothing
    else .done .nothing

def updateTierBody (path : String) (newTier : CacheTier) : PolicyBody :=
  findFile path fun found =>
    if found.isNone then .done .nothing
    else
      entryAt path fun entry =>
        if entry.currentTier = newTier then .done .nothing
        else
          match newTier with
          | .ssd => moveToSsdBody path
          | .fsdax => moveToFsdaxBody path
          | .pfs | .unknown => .done .nothing

def setOpenStateBody (path : String) (isOpen : Bool) : PolicyBody :=
  findFile path fun found =>
    if found.isNone then .exit
    else assignAt path (fun current => { current with isOpen }) <| .done .nothing

def getTierBody (path : String) : PolicyBody :=
  findFile path fun found =>
    if found.isNone then .done (.tier .unknown)
    else entryAt path fun entry => .done (.tier entry.currentTier)

def scanBody : List String → String → PolicyBody
  | [], victimPath => .done (.path victimPath)
  | path :: rest, victimPath =>
      foundAt path fun file =>
        if file.currentTier = .fsdax ∧ file.isOpen = false then
          if victimPath = "" then scanBody rest path
          else
            entryAt victimPath fun victim =>
              if file.accessCount < victim.accessCount then scanBody rest path
              else scanBody rest victimPath
        else scanBody rest victimPath

def selectVictimBody : PolicyBody :=
  .read (fun state => state.fileMetaMap.toList.map Prod.fst) fun paths => scanBody paths ""

def removeFileBody (path : String) : PolicyBody :=
  findFile path fun found =>
    if found.isNone then .exit
    else
      let erased : PolicyBody :=
        .write (fun state => { state with fileMetaMap := state.fileMetaMap.erase path }) <|
        .done .nothing
      foundAt path fun entry =>
        if entry.currentTier = .fsdax then
          foundAt path fun taken => changeFsdaxUsed (· - taken.size) erased
        else
          foundAt path fun entry =>
            if entry.currentTier = .ssd then
              foundAt path fun taken => changeSsdUsed (· - taken.size) erased
            else erased

/-- The first thing that the selection of a victim does is to take the mutex. -/
def evictIfNeededBody : PolicyBody :=
  .read PolicyState.fsdaxUsedBytes fun used =>
  .read PolicyState.fsdaxCapacityBytes fun capacity =>
    if used ≤ capacity then .done (.code 0) else .relock

def getUsageBytesBody : PolicyBody :=
  .read PolicyState.fsdaxUsedBytes fun pmBytes =>
  .read PolicyState.ssdUsedBytes fun ssdBytes => .done (.usage pmBytes ssdBytes)

def LockedCall.body : LockedCall → PolicyBody
  | .call (.addFile path sizeBytes) => addFileBody path sizeBytes
  | .call (.updateAccess path) => updateAccessBody path
  | .call (.updateTier path newTier) => updateTierBody path newTier
  | .call (.setOpenState path isOpen) => setOpenStateBody path isOpen
  | .call (.removeFile path) => removeFileBody path
  | .call .evictIfNeeded => evictIfNeededBody
  | .getTier path => getTierBody path
  | .selectVictimForEviction => selectVictimBody
  | .getUsageBytes => getUsageBytesBody

def LockedCall.perform (call : LockedCall) (state : PolicyState) :
    Outcome PolicyState PolicyAnswer :=
  match call with
  | .call .evictIfNeeded =>
      if state.fsdaxUsedBytes ≤ state.fsdaxCapacityBytes then .returned (.code 0) state
      else .deadlocked
  | .call call =>
      match policyStep state call with
      | none => .exited
      | some next => .returned .nothing next
  | .getTier path => .returned (.tier (cachePolicyGetTier state path)) state
  | .selectVictimForEviction =>
      let selected := cachePolicySelectVictimForEviction state
      .returned (.path selected.1) selected.2
  | .getUsageBytes =>
      let usage := cachePolicyGetUsageBytes state
      .returned (.usage usage.1 usage.2) state

section
variable {state : PolicyState} {path : String} {entry : FileMeta}

@[simp] theorem run_findFile (path : String) (next : Option FileMeta → PolicyBody)
    (state : PolicyState) :
    (findFile path next).run state = (next state.fileMetaMap[path]?).run state := rfl

@[simp] theorem run_changeFsdaxUsed (change : UInt64 → UInt64) (next : PolicyBody)
    (state : PolicyState) :
    (changeFsdaxUsed change next).run state =
      next.run { state with fsdaxUsedBytes := change state.fsdaxUsedBytes } := rfl

@[simp] theorem run_changeSsdUsed (change : UInt64 → UInt64) (next : PolicyBody)
    (state : PolicyState) :
    (changeSsdUsed change next).run state =
      next.run { state with ssdUsedBytes := change state.ssdUsedBytes } := rfl

@[simp] theorem run_insertFile (path : String) (entry : FileMeta) (next : PolicyBody)
    (state : PolicyState) :
    (insertFile path entry next).run state =
      next.run { state with fileMetaMap := state.fileMetaMap.insert path entry } := rfl

theorem run_entryAt (found : state.fileMetaMap[path]? = some entry)
    (next : FileMeta → PolicyBody) :
    (entryAt path next).run state = (next entry).run state := by
  simp [entryAt, OrderedMap.index_of_some found]

theorem run_assignAt (found : state.fileMetaMap[path]? = some entry)
    (change : FileMeta → FileMeta) (next : PolicyBody) :
    (assignAt path change next).run state =
      next.run { state with fileMetaMap := state.fileMetaMap.insert path (change entry) } := by
  simp [assignAt, OrderedMap.index_of_some found]

theorem run_foundAt (found : state.fileMetaMap[path]? = some entry)
    (next : FileMeta → PolicyBody) : (foundAt path next).run state = (next entry).run state := by
  simp [foundAt, OrderedMap.index_of_some found]

theorem run_addFileBody (path : String) (sizeBytes : UInt64) (state : PolicyState) :
    (addFileBody path sizeBytes).run state =
      .returned .nothing (cachePolicyAddFile state path sizeBytes) := by
  unfold addFileBody cachePolicyAddFile
  rw [run_findFile]
  by_cases registered : state.fileMetaMap[path]?.isSome
  · simp [registered]
  · by_cases pmRoom : state.fsdaxUsedBytes + sizeBytes ≤ state.fsdaxCapacityBytes
    · simp [registered, pmRoom]
    · by_cases ssdRoom : state.ssdUsedBytes + sizeBytes ≤ state.ssdCapacityBytes
      · simp [registered, pmRoom, ssdRoom]
      · simp [registered, pmRoom, ssdRoom]

theorem run_updateAccessBody (path : String) (state : PolicyState) :
    (updateAccessBody path).run state = .returned .nothing (cachePolicyUpdateAccess state path) := by
  unfold updateAccessBody cachePolicyUpdateAccess
  rw [run_findFile]
  cases found : state.fileMetaMap[path]? with
  | none => simp
  | some entry => simp [run_entryAt found, run_assignAt found]

def settled (next : Option PolicyState) : Outcome PolicyState PolicyAnswer :=
  match next with
  | none => .exited
  | some next => .returned .nothing next

theorem run_moveToSsdBody (found : state.fileMetaMap[path]? = some entry) :
    (moveToSsdBody path).run state = settled (moveToSsd state path entry) := by
  unfold moveToSsdBody moveToSsd
  rw [run_entryAt found]
  by_cases tier : entry.currentTier = .fsdax
  · by_cases room : state.ssdUsedBytes + entry.size ≤ state.ssdCapacityBytes
    · simp [tier, room, run_entryAt, run_assignAt, found, settled]
    · simp [tier, room, run_entryAt found, settled]
  · simp [tier, settled]

theorem run_moveToFsdaxBody (found : state.fileMetaMap[path]? = some entry) :
    (moveToFsdaxBody path).run state = .returned .nothing (moveToFsdax state path entry) := by
  unfold moveToFsdaxBody moveToFsdax
  rw [run_entryAt found]
  by_cases tier : entry.currentTier = .ssd
  · by_cases room : state.fsdaxUsedBytes + entry.size ≤ state.fsdaxCapacityBytes
    · simp [tier, room, run_entryAt, run_assignAt, found]
    · simp [tier, room, run_entryAt found]
  · simp [tier]

theorem run_updateTierBody (path : String) (newTier : CacheTier) (state : PolicyState) :
    (updateTierBody path newTier).run state =
      settled (cachePolicyUpdateTier state path newTier) := by
  unfold updateTierBody cachePolicyUpdateTier
  rw [run_findFile]
  cases found : state.fileMetaMap[path]? with
  | none => simp [settled]
  | some entry =>
      simp only [Option.isNone_some, Bool.false_eq_true, if_false, run_entryAt found]
      by_cases same : entry.currentTier = newTier
      · simp [same, settled]
      · simp only [if_neg same]
        cases newTier with
        | ssd => exact run_moveToSsdBody found
        | fsdax => exact run_moveToFsdaxBody found
        | pfs => rfl
        | unknown => rfl

theorem run_setOpenStateBody (path : String) (isOpen : Bool) (state : PolicyState) :
    (setOpenStateBody path isOpen).run state =
      settled (cachePolicySetOpenState state path isOpen) := by
  unfold setOpenStateBody cachePolicySetOpenState
  rw [run_findFile]
  cases found : state.fileMetaMap[path]? with
  | none => simp [settled]
  | some entry => simp [run_assignAt found, settled]

theorem run_getTierBody (path : String) (state : PolicyState) :
    (getTierBody path).run state = .returned (.tier (cachePolicyGetTier state path)) state := by
  unfold getTierBody cachePolicyGetTier
  rw [run_findFile]
  cases found : state.fileMetaMap[path]? with
  | none => simp
  | some entry => simp [run_entryAt found]

theorem run_removeFileBody (path : String) (state : PolicyState) :
    (removeFileBody path).run state = settled (cachePolicyRemoveFile state path) := by
  unfold removeFileBody cachePolicyRemoveFile
  rw [run_findFile]
  cases found : state.fileMetaMap[path]? with
  | none => simp [settled]
  | some entry =>
      simp only [Option.isNone_some, Bool.false_eq_true, if_false, run_foundAt found]
      cases tier : entry.currentTier <;> simp [run_foundAt found, tier, settled]

theorem run_scanBody (files : List (String × FileMeta))
    (listed : ∀ file ∈ files, state.fileMetaMap[file.1]? = some file.2) (victimPath : String)
    (known : victimPath = "" ∨ (state.fileMetaMap[victimPath]?).isSome) :
    (scanBody (files.map Prod.fst) victimPath).run state =
      .returned (.path (files.foldl victimScan (state.fileMetaMap, victimPath)).2) state := by
  induction files generalizing victimPath with
  | nil => rfl
  | cons file rest ih =>
      have here := listed file (by simp)
      have later := ih fun other member => listed other (by simp [member])
      have taken := later file.1 (Or.inr (by simp [here]))
      simp only [List.map_cons, scanBody, run_foundAt here, List.foldl_cons, victimScan]
      by_cases eligible : file.2.currentTier = .fsdax ∧ file.2.isOpen = false
      · simp only [if_pos eligible]
        by_cases none : victimPath = ""
        · simp only [if_pos none]
          exact taken
        · obtain ⟨victim, current⟩ := Option.isSome_iff_exists.mp (known.resolve_left none)
          simp only [if_neg none, run_entryAt current, OrderedMap.index_of_some current]
          by_cases fewer : file.2.accessCount < victim.accessCount
          · simp only [if_pos fewer]
            exact taken
          · simp only [if_neg fewer]
            exact later victimPath known
      · simp only [if_neg eligible]
        exact later victimPath known

theorem run_selectVictimBody (state : PolicyState) :
    selectVictimBody.run state =
      .returned (.path (cachePolicySelectVictimForEviction state).1) state := by
  have listed : ∀ file ∈ state.fileMetaMap.toList, state.fileMetaMap[file.1]? = some file.2 :=
    fun _ member => ExtTreeMap.mem_toList_iff_getElem?_eq_some.mp member
  exact run_scanBody state.fileMetaMap.toList listed "" (Or.inl rfl)

theorem run_evictIfNeededBody (state : PolicyState) :
    evictIfNeededBody.run state = (LockedCall.call .evictIfNeeded).perform state := by
  simp only [evictIfNeededBody, LockedCall.perform, Body.run_read]
  split <;> rfl

theorem run_body (call : LockedCall) (state : PolicyState) :
    call.body.run state = call.perform state := by
  cases call with
  | call call =>
      cases call with
      | addFile path sizeBytes => exact run_addFileBody path sizeBytes state
      | updateAccess path => exact run_updateAccessBody path state
      | updateTier path newTier => exact run_updateTierBody path newTier state
      | setOpenState path isOpen => exact run_setOpenStateBody path isOpen state
      | removeFile path => exact run_removeFileBody path state
      | evictIfNeeded => exact run_evictIfNeededBody state
  | getTier path => exact run_getTierBody path state
  | selectVictimForEviction =>
      refine (run_selectVictimBody state).trans ?_
      simp only [LockedCall.perform, (selectVictim_keeps state).1]
  | getUsageBytes => rfl

theorem body_run : (fun call => (LockedCall.body call).run) = LockedCall.perform := by
  funext call state
  exact run_body call state

theorem perform_deadlocked_iff (call : LockedCall) (state : PolicyState) :
    call.perform state = .deadlocked ↔
      call = .call .evictIfNeeded ∧ ¬ state.fsdaxUsedBytes ≤ state.fsdaxCapacityBytes := by
  cases call with
  | call call =>
      cases call with
      | evictIfNeeded =>
          by_cases within : state.fsdaxUsedBytes ≤ state.fsdaxCapacityBytes
          · simp [LockedCall.perform, within]
          · simp [LockedCall.perform, within]
      | addFile path sizeBytes => simp [LockedCall.perform, policyStep]
      | updateAccess path => simp [LockedCall.perform, policyStep]
      | updateTier path newTier =>
          simp only [LockedCall.perform, policyStep]
          split <;> simp
      | setOpenState path isOpen =>
          simp only [LockedCall.perform, policyStep]
          split <;> simp
      | removeFile path =>
          simp only [LockedCall.perform, policyStep]
          split <;> simp
  | getTier path => simp [LockedCall.perform]
  | selectVictimForEviction => simp [LockedCall.perform]
  | getUsageBytes => simp [LockedCall.perform]

theorem perform_returned {call : LockedCall} {state next : PolicyState} {answer : PolicyAnswer}
    (returned : call.perform state = .returned answer next) :
    next = state ∨ ∃ policyCall, call = .call policyCall ∧
      policyStep state policyCall = some next := by
  cases call with
  | call call =>
      cases call with
      | evictIfNeeded =>
          simp only [LockedCall.perform] at returned
          split at returned
          · simp only [Outcome.returned.injEq] at returned
            exact Or.inl returned.2.symm
          · simp at returned
      | _ =>
          right
          refine ⟨_, rfl, ?_⟩
          simp only [LockedCall.perform] at returned
          split at returned
          · simp at returned
          · rename_i after stepped
            simp only [Outcome.returned.injEq] at returned
            exact returned.2 ▸ stepped
  | getTier path =>
      simp only [LockedCall.perform, Outcome.returned.injEq] at returned
      exact Or.inl returned.2.symm
  | selectVictimForEviction =>
      simp only [LockedCall.perform, Outcome.returned.injEq, (selectVictim_keeps state).1]
        at returned
      exact Or.inl returned.2.symm
  | getUsageBytes =>
      simp only [LockedCall.perform, Outcome.returned.injEq] at returned
      exact Or.inl returned.2.symm

end

abbrev PolicySystem (Thread : Type*) := System Thread LockedCall PolicyState PolicyAnswer

section
variable {Thread : Type*} [DecidableEq Thread]

def policyThreadsStep (system : PolicySystem Thread) (action : Action Thread LockedCall) :
    Option (PolicySystem Thread) := CriticalSection.step LockedCall.body system action

theorem run_policyExcluded {start : PolicyState} {actions : List (Action Thread LockedCall)}
    {system : PolicySystem Thread}
    (ran : run policyThreadsStep (System.initial start) actions = some system) :
    ∃ base, Excluded LockedCall.body start system base := run_excluded ran

/-- However the accesses of the threads are interleaved, the calls that have returned give in
the order of their return the answers that a single thread would get, and no call that has
returned is put behind a later one. Whenever the mutex is free, the globals are what these
calls lead to, and only the thread that holds it is in the module's code. -/
theorem policy_calls_linearize (start : PolicyState) (actions : List (Action Thread LockedCall))
    (system : PolicySystem Thread)
    (ran : run policyThreadsStep (System.initial start) actions = some system) :
    (∃ base, Replays LockedCall.perform start system.completed base ∧
      (system.holder = none → system.shared = base)) ∧
    (∀ thread call rest, system.progress thread = .inside call rest →
      system.holder = some thread) ∧
    ∀ before after middle, actions = before ++ after →
      run policyThreadsStep (System.initial start) before = some middle →
      middle.completed <+: system.completed := by
  obtain ⟨base, excluded⟩ := run_policyExcluded ran
  refine ⟨⟨base, body_run ▸ excluded.replays, excluded.free⟩, excluded.alone, ?_⟩
  intro before after middle parted reached
  subst actions
  obtain ⟨again, same, rest⟩ := (run_append _ before after system).mp ran
  rw [reached, Option.some.injEq] at same
  subst again
  exact run_completed rest

def interleavedCalls : List (Action Bool LockedCall) := [
  .call true (.call (.addFile "a" 6)),
  .acquire true,
  .advance true,
  .call false .getUsageBytes,
  .advance true,
  .advance true,
  .advance true,
  .advance true,
  .advance true,
  .advance true,
  .acquire false,
  .advance false
]

theorem policy_calls_linearize_interleaved : ∃ system : PolicySystem Bool,
    run policyThreadsStep (System.initial (emptyPolicy 8 8)) interleavedCalls = some system ∧
    (∃ base, Replays LockedCall.perform (emptyPolicy 8 8) system.completed base ∧
      (system.holder = none → system.shared = base)) ∧
    (∀ thread call rest, system.progress thread = .inside call rest →
      system.holder = some thread) ∧
    ∀ before after middle, interleavedCalls = before ++ after →
      run policyThreadsStep (System.initial (emptyPolicy 8 8)) before = some middle →
      middle.completed <+: system.completed := by
  have returns : (run policyThreadsStep (System.initial (emptyPolicy 8 8))
      interleavedCalls).isSome = true := by decide
  obtain ⟨system, ran⟩ := Option.isSome_iff_exists.mp returns
  exact ⟨system, ran, policy_calls_linearize (emptyPolicy 8 8) interleavedCalls system ran⟩

/-! The capacities, with sizes for which nothing wraps. -/

def SmallCall (call : LockedCall) : Prop :=
  ∀ policyCall, call = .call policyCall → SmallRequest policyCall

def FilledFrom (start state : PolicyState) : Prop :=
  WithinCapacity state ∧ state.capacity = start.capacity

theorem smallCalls_serving (start : PolicyState) :
    Serving LockedCall.body SmallCall (FilledFrom start) := by
  constructor
  · intro state call answer next ⟨within, fixed⟩ small returned
    rw [run_body] at returned
    rcases perform_returned returned with rfl | ⟨policyCall, called, stepped⟩
    · exact ⟨within, fixed⟩
    · have effect := policyStep_effect within.accounted.managed stepped
      exact ⟨effect.withinCapacity within (small policyCall called),
        effect.capacity_eq.trans fixed⟩
  · intro state call ⟨within, _⟩ _ stuck
    rw [run_body, perform_deadlocked_iff] at stuck
    exact stuck.2 (UInt64.le_iff_toNat_le.mpr (within.fits .fsdax))

/-- With sizes and capacities below `2 ^ 63`, however the threads are interleaved, the counters
are the exact sums within the capacities whenever the mutex is free, and every call that a
thread has begun can be brought to its end by the threads that are in a call. -/
theorem policy_threads_capacity (fsdaxCapacityBytes ssdCapacityBytes : UInt64)
    (actions : List (Action Thread LockedCall)) (system : PolicySystem Thread)
    (fsdaxSmall : fsdaxCapacityBytes.toNat < 2 ^ 63) (ssdSmall : ssdCapacityBytes.toNat < 2 ^ 63)
    (sizesSmall : ∀ thread path sizeBytes, .call thread (.call (.addFile path sizeBytes)) ∈ actions →
      sizeBytes.toNat < 2 ^ 63)
    (ran : run policyThreadsStep
      (System.initial (emptyPolicy fsdaxCapacityBytes ssdCapacityBytes)) actions = some system) :
    (system.holder = none →
      system.shared.fsdaxUsedBytes.toNat = tierBytes system.shared.fileMetaMap .fsdax ∧
      system.shared.ssdUsedBytes.toNat = tierBytes system.shared.fileMetaMap .ssd ∧
      system.shared.fsdaxUsedBytes ≤ fsdaxCapacityBytes ∧
      system.shared.ssdUsedBytes ≤ ssdCapacityBytes) ∧
    ∀ thread, Reaches policyThreadsStep NoNewCall (Over thread) system := by
  let start := emptyPolicy fsdaxCapacityBytes ssdCapacityBytes
  have serving := smallCalls_serving start
  have initial : FilledFrom start start := ⟨withinCapacity_empty fsdaxSmall ssdSmall, rfl⟩
  have compliant : Compliant (fun _ => SmallCall) system := by
    refine run_compliant (compliant_initial _ start) ?_ ran
    rintro thread call made policyCall rfl path sizeBytes rfl
    exact sizesSmall thread path sizeBytes made
  obtain ⟨base, excluded⟩ := run_policyExcluded ran
  refine ⟨?_, fun thread => serving.reaches_over initial ⟨base, excluded⟩ compliant thread⟩
  intro free
  obtain ⟨within, fixed⟩ :=
    replays_invariant serving.kept initial compliant.completed excluded.replays
  rw [excluded.free free]
  have fsdaxCapacity : base.capacity .fsdax = fsdaxCapacityBytes := congrFun fixed .fsdax
  have ssdCapacity : base.capacity .ssd = ssdCapacityBytes := congrFun fixed .ssd
  have fsdaxFits := UInt64.le_iff_toNat_le.mpr (within.fits .fsdax)
  have ssdFits := UInt64.le_iff_toNat_le.mpr (within.fits .ssd)
  rw [fsdaxCapacity] at fsdaxFits
  rw [ssdCapacity] at ssdFits
  exact ⟨within.exact .fsdax, within.exact .ssd, fsdaxFits, ssdFits⟩

theorem policy_threads_capacity_interleaved : ∃ system : PolicySystem Bool,
    run policyThreadsStep (System.initial (emptyPolicy 8 8)) interleavedCalls = some system ∧
    (system.holder = none →
      system.shared.fsdaxUsedBytes.toNat = tierBytes system.shared.fileMetaMap .fsdax ∧
      system.shared.ssdUsedBytes.toNat = tierBytes system.shared.fileMetaMap .ssd ∧
      system.shared.fsdaxUsedBytes ≤ 8 ∧
      system.shared.ssdUsedBytes ≤ 8) ∧
    ∀ thread, Reaches policyThreadsStep NoNewCall (Over thread) system := by
  have returns : (run policyThreadsStep (System.initial (emptyPolicy 8 8))
      interleavedCalls).isSome = true := by decide
  obtain ⟨system, ran⟩ := Option.isSome_iff_exists.mp returns
  refine ⟨system, ran,
    policy_threads_capacity 8 8 interleavedCalls system (by decide) (by decide) ?_ ran⟩
  intro thread path sizeBytes member
  simp only [interleavedCalls, List.mem_cons, Action.call.injEq, LockedCall.call.injEq,
    PolicyCall.addFile.injEq, reduceCtorEq, List.not_mem_nil, and_false, or_false] at member
  simp [member.2.2]

/-- A thread in the module's code gives the mutex back or ends the process in some
continuation, unless it is in an eviction that found more used than the capacity. There it
stays, and no other call of any thread ever returns. -/
theorem policy_mutex_released_iff (start : PolicyState)
    (actions : List (Action Thread LockedCall)) (system : PolicySystem Thread)
    (ran : run policyThreadsStep (System.initial start) actions = some system)
    (running : system.exited = false) (thread : Thread) (call : LockedCall) (rest : PolicyBody)
    (inside : system.progress thread = .inside call rest) :
    ∃ base, Replays LockedCall.perform start system.completed base ∧
      (Reaches policyThreadsStep (fun _ _ => True) System.Released system ↔
        (call = .call .evictIfNeeded → base.fsdaxUsedBytes ≤ base.fsdaxCapacityBytes)) ∧
      (¬ (call = .call .evictIfNeeded → base.fsdaxUsedBytes ≤ base.fsdaxCapacityBytes) →
        ∀ later final, run policyThreadsStep system later = some final →
          ¬ final.Released ∧ final.completed = system.completed) := by
  obtain ⟨base, excluded⟩ := run_policyExcluded ran
  have returns : (call.body.run base ≠ .deadlocked) ↔
      (call = .call .evictIfNeeded → base.fsdaxUsedBytes ≤ base.fsdaxCapacityBytes) := by
    rw [run_body, ne_eq, perform_deadlocked_iff]
    tauto
  refine ⟨base, body_run ▸ excluded.replays, ?_, ?_⟩
  · rw [← returns]
    exact excluded.released_iff running inside
  · intro overfull later final further
    rw [← returns, not_not, ← (excluded.partway inside).run_eq] at overfull
    exact run_stuck excluded running inside overfull further

theorem policy_mutex_released_iff_overfull :
    let start := { emptyPolicy 4 8 with fsdaxUsedBytes := 6 }
    ∃ (system : PolicySystem Bool) (call : LockedCall) (rest : PolicyBody),
    run policyThreadsStep (System.initial start)
      [.call true (.call .evictIfNeeded), .acquire true, .call false .getUsageBytes,
        .advance true] = some system ∧ system.progress true = .inside call rest ∧
    ∃ base, Replays LockedCall.perform start system.completed base ∧
      (Reaches policyThreadsStep (fun _ _ => True) System.Released system ↔
        (call = .call .evictIfNeeded → base.fsdaxUsedBytes ≤ base.fsdaxCapacityBytes)) ∧
      (¬ (call = .call .evictIfNeeded → base.fsdaxUsedBytes ≤ base.fsdaxCapacityBytes) →
        ∀ later final, run policyThreadsStep system later = some final →
          ¬ final.Released ∧ final.completed = system.completed) := by
  intro start
  have reached : (run policyThreadsStep (System.initial start : PolicySystem Bool)
      [.call true (.call .evictIfNeeded), .acquire true, .call false .getUsageBytes,
        .advance true]).map (fun system => (system.exited, system.holder)) =
      some (false, some true) := by decide
  obtain ⟨system, ran, same⟩ := Option.map_eq_some_iff.mp reached
  simp only [Prod.mk.injEq] at same
  obtain ⟨base, excluded⟩ := run_policyExcluded ran
  obtain ⟨call, rest, inside, _⟩ := excluded.held true same.2
  exact ⟨system, call, rest, ran, inside,
    policy_mutex_released_iff start _ system ran same.1 true call rest inside⟩

end

end HvacCache
