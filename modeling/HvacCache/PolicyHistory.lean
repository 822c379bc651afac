import HvacCache.CachePolicy

/-! The metadata map against the calls that led to it. One step lemma says where the
record of a path comes from; over a run it relates the record to the last insertion of
the path, and it says which runs never reach an `exit`. -/

namespace HvacCache

open Std Transition

def PolicyCall.path? : PolicyCall → Option String
  | .addFile path _ => some path
  | .updateAccess path => some path
  | .updateTier path _ => some path
  | .setOpenState path _ => some path
  | .removeFile path => some path
  | .evictIfNeeded => none

def PolicyCall.openState? (path : String) : PolicyCall → Option Bool
  | .setOpenState other isOpen => if other = path then some isOpen else none
  | _ => none

structure Recorded (path : String) (call : PolicyCall) (old entry : FileMeta) : Prop where
  size : entry.size = old.size
  accessCount : entry.accessCount =
    if call = .updateAccess path then old.accessCount + 1 else old.accessCount
  isOpen : entry.isOpen = (call.openState? path).getD old.isOpen

def Inserted (path : String) (call : PolicyCall) (entry : FileMeta) : Prop :=
  call = .addFile path entry.size ∧ entry.accessCount = 0 ∧ entry.isOpen = true

theorem Recorded.same {path : String} {call : PolicyCall} (entry : FileMeta)
    (access : call ≠ .updateAccess path) (opens : call.openState? path = none) :
    Recorded path call entry entry :=
  ⟨rfl, by simp [access], by simp [opens]⟩

theorem addFile_found {state : PolicyState} {path other : String} {sizeBytes : UInt64}
    {entry : FileMeta}
    (found : (cachePolicyAddFile state other sizeBytes).fileMetaMap[path]? = some entry) :
    state.fileMetaMap[path]? = some entry ∨
      state.fileMetaMap[path]? = none ∧ Inserted path (.addFile other sizeBytes) entry := by
  unfold cachePolicyAddFile at found
  split at found
  · exact Or.inl found
  · rename_i missing
    have absent : state.fileMetaMap[other]? = none := by simpa using missing
    split at found
    · rcases OrderedMap.found_insert found with ⟨same, stored⟩ | ⟨_, kept⟩
      · subst same stored
        exact Or.inr ⟨absent, rfl, rfl, rfl⟩
      · exact Or.inl kept
    · split at found
      · rcases OrderedMap.found_insert found with ⟨same, stored⟩ | ⟨_, kept⟩
        · subst same stored
          exact Or.inr ⟨absent, rfl, rfl, rfl⟩
        · exact Or.inl kept
      · exact Or.inl found

theorem updateAccess_found {state : PolicyState} {path other : String} {entry : FileMeta}
    (found : (cachePolicyUpdateAccess state other).fileMetaMap[path]? = some entry) :
    ∃ old, state.fileMetaMap[path]? = some old ∧ Recorded path (.updateAccess other) old entry := by
  unfold cachePolicyUpdateAccess at found
  cases located : state.fileMetaMap[other]? with
  | none =>
      simp only [located] at found
      refine ⟨entry, found, Recorded.same entry ?_ rfl⟩
      rintro ⟨rfl⟩
      simp [located] at found
  | some old =>
      simp only [located] at found
      rcases OrderedMap.found_insert found with ⟨same, stored⟩ | ⟨different, kept⟩
      · subst same stored
        exact ⟨old, located, rfl, by simp, rfl⟩
      · refine ⟨entry, kept, Recorded.same entry ?_ rfl⟩
        rintro ⟨rfl⟩
        exact different rfl

theorem updateTier_found {state next : PolicyState} {path other : String} {newTier : CacheTier}
    {entry : FileMeta} (returned : cachePolicyUpdateTier state other newTier = some next)
    (found : next.fileMetaMap[path]? = some entry) :
    ∃ old, state.fileMetaMap[path]? = some old ∧
      Recorded path (.updateTier other newTier) old entry := by
  rcases updateTier_cases returned with same | ⟨old, move⟩
  · exact ⟨entry, same ▸ found, Recorded.same entry (by simp) rfl⟩
  · rw [move.map] at found
    rcases OrderedMap.found_insert found with ⟨same, stored⟩ | ⟨_, kept⟩
    · subst same stored
      exact ⟨old, move.found, rfl, rfl, rfl⟩
    · exact ⟨entry, kept, Recorded.same entry (by simp) rfl⟩

theorem setOpenState_found {state next : PolicyState} {path other : String} {isOpen : Bool}
    {entry : FileMeta} (returned : cachePolicySetOpenState state other isOpen = some next)
    (found : next.fileMetaMap[path]? = some entry) :
    ∃ old, state.fileMetaMap[path]? = some old ∧
      Recorded path (.setOpenState other isOpen) old entry := by
  unfold cachePolicySetOpenState at returned
  cases located : state.fileMetaMap[other]? with
  | none => simp [located] at returned
  | some old =>
      simp only [located, Option.some.injEq] at returned
      subst next
      rcases OrderedMap.found_insert found with ⟨same, stored⟩ | ⟨different, kept⟩
      · subst same stored
        exact ⟨old, located, rfl, by simp, by simp [PolicyCall.openState?]⟩
      · refine ⟨entry, kept, Recorded.same entry (by simp) ?_⟩
        simp [PolicyCall.openState?, Ne.symm different]

theorem removeFile_found {state next : PolicyState} {path other : String} {entry : FileMeta}
    (returned : cachePolicyRemoveFile state other = some next)
    (found : next.fileMetaMap[path]? = some entry) : state.fileMetaMap[path]? = some entry := by
  rw [removeFile_map returned] at found
  exact (OrderedMap.found_erase found).2

theorem evictIfNeeded_found {state next : PolicyState} {code : Int} {path : String}
    {entry : FileMeta} (returned : cachePolicyEvictIfNeeded state = some (code, next))
    (found : next.fileMetaMap[path]? = some entry) : state.fileMetaMap[path]? = some entry := by
  unfold cachePolicyEvictIfNeeded at returned
  split at returned
  · simp only [Option.some.injEq, Prod.mk.injEq] at returned
    exact returned.2 ▸ found
  · simp only [(selectVictim_keeps state).1] at returned
    split at returned
    · simp only [Option.some.injEq, Prod.mk.injEq] at returned
      exact returned.2 ▸ found
    · cases removal : cachePolicyRemoveFile state (cachePolicySelectVictimForEviction state).1 with
      | none => simp [removal] at returned
      | some after =>
          simp only [removal, Option.some.injEq, Prod.mk.injEq] at returned
          exact removeFile_found removal (returned.2 ▸ found)

theorem policyStep_found {state next : PolicyState} {call : PolicyCall} {path : String}
    {entry : FileMeta} (returned : policyStep state call = some next)
    (found : next.fileMetaMap[path]? = some entry) :
    state.fileMetaMap[path]? = none ∧ Inserted path call entry ∨
      ∃ old, state.fileMetaMap[path]? = some old ∧ Recorded path call old entry := by
  cases call with
  | addFile other sizeBytes =>
      simp only [policyStep, Option.some.injEq] at returned
      rcases addFile_found (returned ▸ found) with kept | inserted
      · exact Or.inr ⟨entry, kept, Recorded.same entry (by simp) rfl⟩
      · exact Or.inl inserted
  | updateAccess other =>
      simp only [policyStep, Option.some.injEq] at returned
      exact Or.inr (updateAccess_found (returned ▸ found))
  | updateTier other newTier => exact Or.inr (updateTier_found returned found)
  | setOpenState other isOpen => exact Or.inr (setOpenState_found returned found)
  | removeFile other =>
      exact Or.inr ⟨entry, removeFile_found returned found,
        Recorded.same entry (by simp) rfl⟩
  | evictIfNeeded =>
      simp only [policyStep, Option.map_eq_some_iff] at returned
      obtain ⟨⟨code, after⟩, evicted, same⟩ := returned
      have kept := evictIfNeeded_found evicted (same ▸ found)
      exact Or.inr ⟨entry, kept, Recorded.same entry (by simp) rfl⟩

theorem isSome_insert {map : OrderedMap String FileMeta} {path other : String} {entry : FileMeta}
    (registered : map[path]?.isSome) : (map.insert other entry)[path]?.isSome := by
  rw [OrderedMap.getElem?_insert_ite]
  split
  · rfl
  · exact registered

theorem policyStep_persists {state next : PolicyState} {call : PolicyCall} {path : String}
    (returned : policyStep state call = some next) (named : call.path?.isSome)
    (kept : call ≠ .removeFile path) (registered : state.fileMetaMap[path]?.isSome) :
    next.fileMetaMap[path]?.isSome := by
  cases call with
  | addFile other sizeBytes =>
      simp only [policyStep, Option.some.injEq, cachePolicyAddFile] at returned
      subst next
      split
      · exact registered
      · split
        · exact isSome_insert registered
        · split
          · exact isSome_insert registered
          · exact registered
  | updateAccess other =>
      simp only [policyStep, Option.some.injEq, cachePolicyUpdateAccess] at returned
      subst next
      split
      · exact registered
      · exact isSome_insert registered
  | updateTier other newTier =>
      rcases updateTier_cases returned with same | ⟨old, move⟩
      · exact same ▸ registered
      · rw [move.map]
        exact isSome_insert registered
  | setOpenState other isOpen =>
      simp only [policyStep, cachePolicySetOpenState] at returned
      split at returned
      · simp at returned
      · simp only [Option.some.injEq] at returned
        subst next
        exact isSome_insert registered
  | removeFile other =>
      have different : other ≠ path := fun same => kept (same ▸ rfl)
      rw [removeFile_map returned, OrderedMap.getElem?_erase_ite, if_neg different]
      exact registered
  | evictIfNeeded => simp [PolicyCall.path?] at named

theorem policyStep_unrelated {state next : PolicyState} {call : PolicyCall} {path : String}
    {entry : FileMeta} (returned : policyStep state call = some next)
    (found : state.fileMetaMap[path]? = some entry)
    (unrelated : (∃ sizeBytes, call = .addFile path sizeBytes) ∨
      ∃ other, call.path? = some other ∧ other ≠ path) :
    ∃ kept, next.fileMetaMap[path]? = some kept ∧ kept.size = entry.size ∧
      kept.accessCount = entry.accessCount ∧ kept.isOpen = entry.isOpen := by
  have named : call.path?.isSome ∧ call ≠ .removeFile path ∧ call ≠ .updateAccess path ∧
      call.openState? path = none := by
    rcases unrelated with ⟨sizeBytes, rfl⟩ | ⟨other, about, different⟩
    · simp [PolicyCall.path?, PolicyCall.openState?]
    · cases call <;> simp_all [PolicyCall.path?, PolicyCall.openState?]
  obtain ⟨about, notRemoved, notAccessed, notSet⟩ := named
  have registered := policyStep_persists returned about notRemoved (by simp [found])
  obtain ⟨kept, located⟩ := Option.isSome_iff_exists.mp registered
  refine ⟨kept, located, ?_⟩
  rcases policyStep_found returned located with ⟨missing, _⟩ | ⟨old, before, recorded⟩
  · simp [found] at missing
  · rw [found, Option.some.injEq] at before
    subst old
    refine ⟨recorded.size, ?_, ?_⟩
    · simpa [notAccessed] using recorded.accessCount
    · simpa [notSet] using recorded.isOpen

/-! The record of a registered path and the calls since its last insertion. -/

def Inserts (start : PolicyState) (path : String) (before : List PolicyCall) (call : PolicyCall) :
    Prop :=
  ∃ reached next, run policyStep start before = some reached ∧
    reached.fileMetaMap[path]? = none ∧ policyStep reached call = some next ∧
    next.fileMetaMap[path]?.isSome

/-- `call`, made after `before` and followed by `after`, is the last one that put `path`
into the map. -/
structure LastInsertion (start : PolicyState) (path : String) (calls before : List PolicyCall)
    (call : PolicyCall) (after : List PolicyCall) : Prop where
  split : calls = before ++ call :: after
  inserts : Inserts start path before call
  last : ∀ earlier later other, after = earlier ++ other :: later →
    ¬ Inserts start path (before ++ call :: earlier) other

def lastOpenState? (path : String) (calls : List PolicyCall) : Option Bool :=
  (calls.filterMap (PolicyCall.openState? path)).getLast?

theorem lastOpenState?_append (path : String) (calls : List PolicyCall) (call : PolicyCall) :
    lastOpenState? path (calls ++ [call]) =
      (call.openState? path).or (lastOpenState? path calls) := by
  unfold lastOpenState?
  rw [List.filterMap_append, List.getLast?_append]
  congr 1
  cases opened : call.openState? path with
  | none => simp [opened]
  | some isOpen => simp [opened]

structure Chronicle (start : PolicyState) (path : String) (calls : List PolicyCall)
    (entry : FileMeta) (before after : List PolicyCall) : Prop where
  insertion : LastInsertion start path calls before (.addFile path entry.size) after
  accessCount : entry.accessCount.toNat = after.count (.updateAccess path) % 2 ^ 64
  isOpen : entry.isOpen = (lastOpenState? path after).getD true

theorem Chronicle.inserted {start state next : PolicyState} {path : String}
    {calls : List PolicyCall} {call : PolicyCall} {entry : FileMeta}
    (ran : run policyStep start calls = some state) (missing : state.fileMetaMap[path]? = none)
    (returned : policyStep state call = some next)
    (found : next.fileMetaMap[path]? = some entry) (inserted : Inserted path call entry) :
    Chronicle start path (calls ++ [call]) entry calls [] := by
  obtain ⟨called, fresh, opened⟩ := inserted
  subst call
  refine ⟨⟨rfl, ⟨state, next, ran, missing, returned, by simp [found]⟩, ?_⟩, ?_, ?_⟩
  · intro earlier later other empty
    simp at empty
  · simp [fresh]
  · simp [opened, lastOpenState?]

theorem LastInsertion.append {start state : PolicyState} {path : String}
    {calls before after : List PolicyCall} {call other : PolicyCall}
    (insertion : LastInsertion start path calls before call after)
    (ran : run policyStep start calls = some state)
    (registered : state.fileMetaMap[path]?.isSome) :
    LastInsertion start path (calls ++ [other]) before call (after ++ [other]) := by
  refine ⟨by simp [insertion.split], insertion.inserts, ?_⟩
  intro earlier later inner parted
  rcases List.eq_nil_or_concat later with empty | ⟨rest, final, extended⟩
  · subst later
    have same := List.append_inj_left' parted rfl
    subst earlier
    rw [← insertion.split]
    rintro ⟨reached, next, again, missing, _, _⟩
    rw [ran, Option.some.injEq] at again
    subst reached
    simp [missing] at registered
  · subst later
    rw [List.concat_eq_append, ← List.cons_append, ← List.append_assoc] at parted
    exact insertion.last earlier rest inner (List.append_inj_left' parted rfl)

theorem Chronicle.recorded {start state : PolicyState} {path : String}
    {calls before after : List PolicyCall} {call : PolicyCall} {old entry : FileMeta}
    (chronicle : Chronicle start path calls old before after)
    (ran : run policyStep start calls = some state)
    (found : state.fileMetaMap[path]? = some old) (recorded : Recorded path call old entry) :
    Chronicle start path (calls ++ [call]) entry before (after ++ [call]) := by
  refine ⟨?_, ?_, ?_⟩
  · rw [recorded.size]
    exact chronicle.insertion.append ran (by simp [found])
  · have counted := chronicle.accessCount
    rw [recorded.accessCount, List.count_append]
    by_cases access : call = .updateAccess path
    · subst call
      simp only [if_true, UInt64.toNat_add, UInt64.toNat_one, counted, List.count_singleton_self]
      omega
    · simp [access, counted]
  · rw [recorded.isOpen, lastOpenState?_append, chronicle.isOpen]
    cases call.openState? path with
    | none => rfl
    | some isOpen => rfl

theorem run_chronicle {start : PolicyState} (empty : start.fileMetaMap = ∅)
    {calls : List PolicyCall} {state : PolicyState}
    (ran : run policyStep start calls = some state) {path : String} {entry : FileMeta}
    (found : state.fileMetaMap[path]? = some entry) :
    ∃ before after, Chronicle start path calls entry before after := by
  have preserved : ∀ calls state call next,
      (run policyStep start calls = some state ∧ ∀ (path : String) (entry : FileMeta),
        state.fileMetaMap[path]? = some entry →
        ∃ before after, Chronicle start path calls entry before after) →
      policyStep state call = some next →
      run policyStep start (calls ++ [call]) = some next ∧ ∀ (path : String) (entry : FileMeta),
        next.fileMetaMap[path]? = some entry →
        ∃ before after, Chronicle start path (calls ++ [call]) entry before after := by
    intro calls state call next ⟨reached, told⟩ returned
    refine ⟨(run_concat start calls call next).mpr ⟨state, reached, returned⟩, ?_⟩
    intro path entry found
    rcases policyStep_found returned found with ⟨missing, inserted⟩ | ⟨old, located, recorded⟩
    · exact ⟨calls, [], Chronicle.inserted reached missing returned found inserted⟩
    · obtain ⟨before, after, chronicle⟩ := told path old located
      exact ⟨before, after ++ [call], chronicle.recorded reached located recorded⟩
  have initial : run policyStep start [] = some start ∧ ∀ (path : String) (entry : FileMeta),
      start.fileMetaMap[path]? = some entry →
      ∃ before after, Chronicle start path [] entry before after := by
    refine ⟨rfl, ?_⟩
    intro path entry impossible
    simp [empty] at impossible
  exact (run_history preserved initial ran).2 path entry found

/-- The size of a registered file is the one its last insertion was called with, its
access count is the number of accesses since modulo `2 ^ 64`, and it is open as the last
call since then says. Adding it again, or any call on another file, changes none of the
three. -/
theorem metadata_history (fsdaxCapacityBytes ssdCapacityBytes : UInt64) (calls : List PolicyCall)
    (state : PolicyState) (path : String) (entry : FileMeta)
    (ran : run policyStep (emptyPolicy fsdaxCapacityBytes ssdCapacityBytes) calls = some state)
    (found : state.fileMetaMap[path]? = some entry) :
    (∃ before sizeBytes after,
      LastInsertion (emptyPolicy fsdaxCapacityBytes ssdCapacityBytes) path calls before
        (.addFile path sizeBytes) after ∧
      entry.size = sizeBytes ∧
      entry.accessCount.toNat = after.count (.updateAccess path) % 2 ^ 64 ∧
      entry.isOpen = (lastOpenState? path after).getD true) ∧
    ∀ call next, policyStep state call = some next →
      ((∃ sizeBytes, call = .addFile path sizeBytes) ∨
        ∃ other, call.path? = some other ∧ other ≠ path) →
      ∃ kept, next.fileMetaMap[path]? = some kept ∧ kept.size = entry.size ∧
        kept.accessCount = entry.accessCount ∧ kept.isOpen = entry.isOpen := by
  constructor
  · obtain ⟨before, after, insertion, counted, opened⟩ := run_chronicle rfl ran found
    exact ⟨before, entry.size, after, insertion, rfl, counted, opened⟩
  · intro call next returned unrelated
    exact policyStep_unrelated returned found unrelated

theorem metadata_history_mixed : ∃ state entry,
    run policyStep (emptyPolicy 8 8) mixedCalls = some state ∧
    state.fileMetaMap["a"]? = some entry ∧
    ∃ before sizeBytes after,
      LastInsertion (emptyPolicy 8 8) "a" mixedCalls before (.addFile "a" sizeBytes) after ∧
      entry.size = sizeBytes ∧
      entry.accessCount.toNat = after.count (.updateAccess "a") % 2 ^ 64 ∧
      entry.isOpen = (lastOpenState? "a" after).getD true := by
  have reached : ((run policyStep (emptyPolicy 8 8) mixedCalls).bind
      fun state => state.fileMetaMap["a"]?).isSome = true := by decide
  obtain ⟨entry, some⟩ := Option.isSome_iff_exists.mp reached
  obtain ⟨state, ran, found⟩ := Option.bind_eq_some_iff.mp some
  exact ⟨state, entry, ran, found,
    (metadata_history 8 8 mixedCalls state "a" entry ran found).1⟩

/-! Calls that use a file only between its addition and its removal. -/

def Declared (path : String) (calls : List PolicyCall) : Prop :=
  ∃ earlier sizeBytes later, calls = earlier ++ .addFile path sizeBytes :: later ∧
    .removeFile path ∉ later

/-- The four calls, where a file is set open or closed, or removed, only while it is
declared. -/
def Permitted (before : List PolicyCall) : PolicyCall → Prop
  | .addFile _ _ => True
  | .updateAccess _ => True
  | .setOpenState path _ => Declared path before
  | .removeFile path => Declared path before
  | .updateTier _ _ => False
  | .evictIfNeeded => False

def Bracketed (calls : List PolicyCall) : Prop :=
  ∀ before call after, calls = before ++ call :: after → Permitted before call

def Admitted (state : PolicyState) : PolicyCall → Prop
  | .addFile path sizeBytes =>
      state.fileMetaMap[path]?.isSome ∨
      state.fsdaxUsedBytes + sizeBytes ≤ state.fsdaxCapacityBytes ∨
      state.ssdUsedBytes + sizeBytes ≤ state.ssdCapacityBytes
  | _ => True

theorem addFile_registered {state : PolicyState} {path : String} {sizeBytes : UInt64} :
    (cachePolicyAddFile state path sizeBytes).fileMetaMap[path]?.isSome ↔
      Admitted state (.addFile path sizeBytes) := by
  unfold cachePolicyAddFile Admitted
  split
  · rename_i registered
    simp [registered]
  · rename_i missing
    split
    · rename_i room
      simp [room]
    · rename_i full
      split
      · rename_i room
        simp [room]
      · rename_i refused
        simp [missing, full, refused]

theorem Declared.append {path : String} {calls : List PolicyCall} {call : PolicyCall}
    (declared : Declared path (calls ++ [call])) :
    (∃ sizeBytes, call = .addFile path sizeBytes) ∨
      Declared path calls ∧ call ≠ .removeFile path := by
  obtain ⟨earlier, sizeBytes, later, parted, standing⟩ := declared
  rcases List.eq_nil_or_concat later with empty | ⟨rest, final, extended⟩
  · subst later
    exact Or.inl ⟨sizeBytes, by simpa using (List.append_inj_right' parted rfl)⟩
  · subst later
    rw [List.concat_eq_append, ← List.cons_append, ← List.append_assoc] at parted
    have last := List.append_inj_right' parted rfl
    have front := List.append_inj_left' parted rfl
    simp only [List.cons.injEq, and_true] at last
    subst final
    simp only [List.concat_eq_append, List.mem_append, List.mem_singleton, not_or] at standing
    exact Or.inr ⟨⟨earlier, sizeBytes, rest, front, standing.1⟩, Ne.symm standing.2⟩

theorem setOpenState_isSome {state : PolicyState} {path : String} {isOpen : Bool} :
    (cachePolicySetOpenState state path isOpen).isSome = state.fileMetaMap[path]?.isSome := by
  unfold cachePolicySetOpenState
  split
  · rename_i missing
    simp [missing]
  · rename_i entry found
    simp [found]

theorem Bracketed.append {before calls : List PolicyCall} (bracketed : Bracketed (before ++ calls)) :
    Bracketed before := by
  intro earlier call later parted
  exact bracketed earlier call (later ++ calls) (by simp [parted])

theorem Bracketed.returns {state : PolicyState} {calls : List PolicyCall} {call : PolicyCall}
    (bracketed : Bracketed (calls ++ [call]))
    (registered : ∀ path, Declared path calls → state.fileMetaMap[path]?.isSome) :
    call.path?.isSome ∧ (policyStep state call).isSome := by
  have allowed := bracketed calls call [] rfl
  cases call with
  | addFile path sizeBytes => exact ⟨rfl, rfl⟩
  | updateAccess path => exact ⟨rfl, rfl⟩
  | updateTier path newTier => exact absurd allowed id
  | setOpenState path isOpen => exact ⟨rfl, setOpenState_isSome.trans (registered path allowed)⟩
  | removeFile path => exact ⟨rfl, removeFile_isSome.trans (registered path allowed)⟩
  | evictIfNeeded => exact absurd allowed id

theorem run_declared {start : PolicyState} {calls : List PolicyCall} (bracketed : Bracketed calls)
    (meets : Meets policyStep Admitted start calls) :
    ∃ state, run policyStep start calls = some state ∧
      ∀ path, Declared path calls → state.fileMetaMap[path]?.isSome := by
  induction calls using List.reverseRecOn with
  | nil =>
      refine ⟨start, rfl, ?_⟩
      rintro path ⟨earlier, sizeBytes, later, empty, _⟩
      simp at empty
  | append_singleton before call ih =>
      obtain ⟨metBefore, metAfter⟩ := meets_of_append meets
      obtain ⟨state, ran, registered⟩ := ih bracketed.append metBefore
      obtain ⟨named, returns⟩ := bracketed.returns registered
      obtain ⟨next, returned⟩ := Option.isSome_iff_exists.mp returns
      refine ⟨next, (run_concat start before call next).mpr ⟨state, ran, returned⟩, ?_⟩
      intro path declared
      rcases declared.append with ⟨sizeBytes, added⟩ | ⟨earlier, kept⟩
      · subst call
        simp only [policyStep, Option.some.injEq] at returned
        subst next
        exact addFile_registered.mpr (metAfter state ran).1
      · exact policyStep_persists returned named kept (registered path earlier)

theorem bracketed_nil : Bracketed [] := by
  intro before call after empty
  simp at empty

theorem Bracketed.extend {calls : List PolicyCall} {call : PolicyCall}
    (bracketed : Bracketed calls) (permitted : Permitted calls call) :
    Bracketed (calls ++ [call]) := by
  intro before other after parted
  rcases List.eq_nil_or_concat after with empty | ⟨rest, final, extended⟩
  · subst after
    have last := List.append_inj_right' parted rfl
    have front := List.append_inj_left' parted rfl
    simp only [List.cons.injEq, and_true] at last
    subst other before
    exact permitted
  · subst after
    rw [List.concat_eq_append, ← List.cons_append, ← List.append_assoc] at parted
    exact bracketed before other rest (List.append_inj_left' parted rfl)

theorem run_refused {start middle : PolicyState} {before : List PolicyCall} {path : String}
    {sizeBytes : UInt64} (ran : run policyStep start before = some middle)
    (refused : ¬ Admitted middle (.addFile path sizeBytes)) :
    run policyStep start (before ++ [.addFile path sizeBytes] ++ [.setOpenState path false]) =
      none := by
  by_contra returned
  obtain ⟨final, finished⟩ := Option.ne_none_iff_exists'.mp returned
  obtain ⟨added, reached, closed⟩ := (run_concat _ _ _ _).mp finished
  obtain ⟨again, same, stepped⟩ := (run_concat _ _ _ _).mp reached
  rw [ran, Option.some.injEq] at same
  subst again
  simp only [policyStep, Option.some.injEq] at closed stepped
  subst added
  have registered := setOpenState_isSome.symm.trans (by rw [closed])
  exact refused (addFile_registered.mp registered)

/-- A run of additions, accesses, open states and removals that is bracketed by its own
additions never exits when every addition finds room; after an addition that finds none,
closing the file is allowed and exits. -/
theorem declared_never_exits (fsdaxCapacityBytes ssdCapacityBytes : UInt64)
    (calls : List PolicyCall) (bracketed : Bracketed calls) :
    (Meets policyStep Admitted (emptyPolicy fsdaxCapacityBytes ssdCapacityBytes) calls →
      (run policyStep (emptyPolicy fsdaxCapacityBytes ssdCapacityBytes) calls).isSome) ∧
    (¬ Meets policyStep Admitted (emptyPolicy fsdaxCapacityBytes ssdCapacityBytes) calls →
      ∃ before after path, calls = before ++ after ∧
        Bracketed (before ++ [.setOpenState path false]) ∧
        run policyStep (emptyPolicy fsdaxCapacityBytes ssdCapacityBytes)
          (before ++ [.setOpenState path false]) = none) := by
  constructor
  · intro meets
    obtain ⟨state, ran, _⟩ := run_declared bracketed meets
    simp [ran]
  · intro broken
    obtain ⟨before, call, after, middle, parted, _, ran, refused⟩ := exists_of_not_meets broken
    obtain ⟨path, sizeBytes, called⟩ : ∃ path sizeBytes, call = .addFile path sizeBytes := by
      cases call with
      | addFile path sizeBytes => exact ⟨path, sizeBytes, rfl⟩
      | updateAccess path => exact absurd trivial refused
      | updateTier path newTier => exact absurd trivial refused
      | setOpenState path isOpen => exact absurd trivial refused
      | removeFile path => exact absurd trivial refused
      | evictIfNeeded => exact absurd trivial refused
    subst call
    refine ⟨before ++ [.addFile path sizeBytes], after, path, by simp [parted], ?_, ?_⟩
    · have whole : Bracketed (before ++ [.addFile path sizeBytes] ++ after) := by
        simpa [parted] using bracketed
      exact whole.append.extend ⟨before, sizeBytes, [], rfl, by simp⟩
    · exact run_refused ran refused

theorem declared_never_exits_closed :
    (run policyStep (emptyPolicy 4 8)
      [.addFile "a" 6, .updateAccess "a", .setOpenState "a" false, .removeFile "a"]).isSome := by
  refine (declared_never_exits 4 8 _ ?_).1 ?_
  · have added : Bracketed [.addFile "a" 6] := bracketed_nil.extend trivial
    have accessed : Bracketed [.addFile "a" 6, .updateAccess "a"] := added.extend trivial
    have closed : Bracketed [.addFile "a" 6, .updateAccess "a", .setOpenState "a" false] :=
      accessed.extend ⟨[], 6, _, rfl, by simp⟩
    exact closed.extend ⟨[], 6, _, rfl, by simp⟩
  · exact ⟨Or.inr (Or.inr (by decide)), trivial, trivial, trivial, trivial⟩

theorem refused_addition_exits : ¬ ∀ (fsdaxCapacityBytes ssdCapacityBytes : UInt64)
    (calls : List PolicyCall), Bracketed calls →
      (run policyStep (emptyPolicy fsdaxCapacityBytes ssdCapacityBytes) calls).isSome := by
  intro survives
  have added : Bracketed [.addFile "a" 1] := bracketed_nil.extend trivial
  have closed : Bracketed [.addFile "a" 1, .setOpenState "a" false] :=
    added.extend ⟨[], 1, _, rfl, by simp⟩
  have returned := survives 0 0 _ closed
  revert returned
  decide

end HvacCache
