import HvacCache.Library.Posix

/-! Offsets moved by `lseek`, and histories of calls that have seeks among them. -/

namespace Posix

open Transition

inductive Whence
  | set
  | cur
  | fromEnd
deriving DecidableEq, Repr

def seekTarget (files : String → Option Bytes) (descriptor : Descriptor) (offset : Int) :
    Whence → Int
  | .set => offset
  | .cur => descriptor.position + offset
  | .fromEnd => ((files descriptor.file).getD []).length + offset

/-- An offset that is negative, or that `off_t` cannot hold, is refused. -/
def lseek (files : String → Option Bytes) (table : Table) (fd offset : Int) (whence : Whence) :
    Int × Table :=
  match table[fd]? with
  | none => (-1, table)
  | some descriptor =>
      let target := seekTarget files descriptor offset whence
      if 0 ≤ target ∧ target < 2 ^ 63 then
        (target, table.insert fd { descriptor with position := target.toNat })
      else (-1, table)

inductive SeekEvent
  | call (event : Event)
  | lseek (fd offset : Int) (whence : Whence) (ret : Int)
deriving DecidableEq, Repr

def SeekEvent.isCall : SeekEvent → Bool
  | .call _ => true
  | .lseek _ _ _ _ => false

def replaySeek (files : String → Option Bytes) (table : Table) : SeekEvent → Option Table
  | .call event => replay files table event
  | .lseek fd offset whence _ => some (lseek files table fd offset whence).2

def advance (files : String → Option Bytes) (table : Table) : SeekEvent → Table
  | .call (.opened file mode fd) => table.insert fd { file, mode, position := 0 }
  | .call (.read fd count _) => (read files table fd count).2
  | .call (.closed fd _) => (close table fd).2
  | .call .openFailed => table
  | .call (.pread _ _ _ _) => table
  | .lseek fd offset whence _ => (lseek files table fd offset whence).2

def tableAfter (files : String → Option Bytes) (history : List SeekEvent) : Table :=
  history.foldl (advance files) ∅

/-- The seeks of the history have left the offset of the descriptor where its reads alone
would have. -/
def Undisplaced (files : String → Option Bytes) (history : List SeekEvent) (fd : Int) : Prop :=
  ((tableAfter files history)[fd]?).map Descriptor.position =
    ((tableAfter files (history.filter SeekEvent.isCall))[fd]?).map Descriptor.position

instance (files : String → Option Bytes) (history : List SeekEvent) (fd : Int) :
    Decidable (Undisplaced files history fd) :=
  inferInstanceAs (Decidable (_ = _))

section
variable {files : String → Option Bytes} {table other after : Table}

theorem lseek_sameFiles (files : String → Option Bytes) (table : Table) (fd offset : Int)
    (whence : Whence) : SameFiles table (lseek files table fd offset whence).2 := by
  intro seen
  unfold lseek
  split
  · rfl
  · rename_i descriptor found
    simp only
    split
    · rw [OrderedMap.getElem?_insert_ite]
      split
      · rename_i same
        subst seen
        simp [found]
      · rfl
    · rfl

theorem lseek_other {fd seen : Int} (different : seen ≠ fd) (offset : Int) (whence : Whence) :
    (lseek files table fd offset whence).2[seen]? = table[seen]? := by
  unfold lseek
  split
  · rfl
  · simp only
    split
    · rw [OrderedMap.getElem?_insert_ite, if_neg (Ne.symm different)]
    · rfl

theorem advance_eq {event : SeekEvent} (replayed : replaySeek files table event = some after) :
    advance files table event = after := by
  apply Option.some.inj
  cases event with
  | lseek fd offset whence ret => exact replayed
  | call event =>
      -- Apart from a failed open, a call is replayed under a test of its result.
      cases event with
      | openFailed => exact replayed
      | opened file mode fd => exact (Option.ite_none_right_eq_some.mp replayed).2
      | read fd count result => exact (Option.ite_none_right_eq_some.mp replayed).2
      | pread fd count offset result => exact (Option.ite_none_right_eq_some.mp replayed).2
      | closed fd ret => exact (Option.ite_none_right_eq_some.mp replayed).2

theorem tableAfter_eq {history : List SeekEvent}
    (replayed : run (replaySeek files) ∅ history = some table) :
    tableAfter files history = table := by
  have stepwise : ∀ earlier (state : Table) event (next : Table),
      tableAfter files earlier = state → replaySeek files state event = some next →
      tableAfter files (earlier ++ [event]) = next := by
    intro earlier state event next reached stepped
    rw [tableAfter, List.foldl_append]
    simp only [List.foldl_cons, List.foldl_nil]
    rw [← advance_eq stepped, ← reached, tableAfter]
  exact run_history stepwise rfl replayed

theorem run_replaySeek_calls (events : List Event) (start : Table) :
    run (replaySeek files) start (events.map .call) = run (replay files) start events := by
  induction events generalizing start with
  | nil => rfl
  | cons event rest ih =>
      simp only [List.map_cons, run, replaySeek]
      cases replay files start event with
      | none => rfl
      | some next => exact ih next

/-! Tables that differ in their offsets only. -/

theorem SameFiles.readable_eq (same : SameFiles table other) (fd : Int) :
    (table[fd]?).map (readable files) = (other[fd]?).map (readable files) := by
  cases found : table[fd]? with
  | none =>
      cases moved : other[fd]? with
      | none => rfl
      | some descriptor =>
          obtain ⟨shifted, present, _⟩ := same.symm.found moved
          simp [found] at present
  | some descriptor =>
      obtain ⟨shifted, present, sameFile, sameMode⟩ := same.found found
      simp [present, readable, sameFile, sameMode]

theorem SameFiles.none_iff (same : SameFiles table other) (fd : Int) :
    table[fd]? = none ↔ other[fd]? = none := by
  have equal := same fd
  constructor
  · intro missing
    simpa [missing, eq_comm] using equal
  · intro missing
    simpa [missing] using equal

theorem SameFiles.eq_of_position (same : SameFiles table other) {fd : Int}
    (position : (table[fd]?).map Descriptor.position = (other[fd]?).map Descriptor.position) :
    table[fd]? = other[fd]? := by
  cases found : table[fd]? with
  | none => exact ((same.none_iff fd).mp found).symm
  | some descriptor =>
      obtain ⟨shifted, present, sameFile, sameMode⟩ := same.found found
      rw [found, present] at position
      obtain ⟨file, mode, start⟩ := descriptor
      obtain ⟨otherFile, otherMode, otherStart⟩ := shifted
      simp_all

theorem SameFiles.insert (same : SameFiles table other) (fd : Int) (descriptor : Descriptor) :
    SameFiles (table.insert fd descriptor) (other.insert fd descriptor) := by
  intro seen
  simp only [OrderedMap.getElem?_insert_ite]
  split
  · rfl
  · exact same seen

theorem SameFiles.erase (same : SameFiles table other) (fd : Int) :
    SameFiles (table.erase fd) (other.erase fd) := by
  intro seen
  simp only [OrderedMap.getElem?_erase_ite]
  split
  · rfl
  · exact same seen

theorem SameFiles.of_reads (same : SameFiles table other) (fd : Int) (count : Nat) :
    SameFiles (read files table fd count).2 (read files other fd count).2 := fun seen =>
  ((read_sameFiles files table fd count).symm seen).trans
    ((same seen).trans (read_sameFiles files other fd count seen))

theorem SameFiles.closed (same : SameFiles table other) (fd : Int) :
    (close table fd).1 = (close other fd).1 ∧
      SameFiles (close table fd).2 (close other fd).2 ∧
      ∀ seen : Int, table[seen]? = other[seen]? ∨ seen = fd →
        (close table fd).2[seen]? = (close other fd).2[seen]? := by
  unfold close
  cases found : table[fd]? with
  | none =>
      have missing := (same.none_iff fd).mp found
      rw [missing]
      refine ⟨rfl, same, ?_⟩
      intro seen place
      rcases place with equal | here
      · exact equal
      · rw [here, found, missing]
  | some descriptor =>
      obtain ⟨shifted, present, _⟩ := same.found found
      rw [present]
      refine ⟨rfl, same.erase fd, ?_⟩
      intro seen place
      simp only [OrderedMap.getElem?_erase_ite]
      split
      · rfl
      · rename_i different
        exact place.resolve_right (fun here => different here.symm)

/-- A call has the same result on both tables, unless it reads from an offset in which they
differ. -/
theorem replay_sameFiles (same : SameFiles table other) {event : Event}
    (reads : ∀ fd count result, event = .read fd count result → table[fd]? = other[fd]?)
    (replayed : replay files table event = some after) :
    ∃ moved, replay files other event = some moved ∧ SameFiles after moved ∧
      ∀ fd : Int, table[fd]? = other[fd]? ∨ (∃ ret, event = .closed fd ret) →
        after[fd]? = moved[fd]? := by
  cases event with
  | opened file mode fd =>
      simp only [replay, Option.ite_none_right_eq_some, Option.some.injEq] at replayed ⊢
      obtain ⟨granted, rfl⟩ := replayed
      have unused : Unused other fd := ⟨granted.1.1, (same.none_iff fd).mp granted.1.2⟩
      refine ⟨_, ⟨⟨unused, granted.2⟩, rfl⟩, same.insert fd _, ?_⟩
      intro seen equal
      simp only [reduceCtorEq, exists_false, or_false] at equal
      simp only [OrderedMap.getElem?_insert_ite, equal]
  | openFailed =>
      simp only [replay, Option.some.injEq] at replayed
      subst after
      exact ⟨other, rfl, same, by simp⟩
  | read fd count result =>
      simp only [replay, Option.ite_none_right_eq_some, Option.some.injEq] at replayed ⊢
      obtain ⟨returned, rfl⟩ := replayed
      have equal := reads fd count result rfl
      obtain ⟨sameResult, sameEntry⟩ := read_congr files equal count
      refine ⟨_, ⟨sameResult.symm.trans returned, rfl⟩, same.of_reads fd count, ?_⟩
      intro seen place
      simp only [reduceCtorEq, exists_false, or_false] at place
      by_cases here : seen = fd
      · subst seen
        exact sameEntry
      · rw [read_other here, read_other here]
        exact place
  | pread fd count offset result =>
      simp only [replay, Option.ite_none_right_eq_some, Option.some.injEq] at replayed ⊢
      obtain ⟨returned, rfl⟩ := replayed
      have sameResult : pread files table fd count offset = pread files other fd count offset :=
        pread_congr (same.readable_eq fd) count offset
      exact ⟨other, ⟨sameResult.symm.trans returned, rfl⟩, same, by simp⟩
  | closed fd ret =>
      simp only [replay, Option.ite_none_right_eq_some, Option.some.injEq] at replayed ⊢
      obtain ⟨returned, rfl⟩ := replayed
      obtain ⟨sameRet, sameTable, entries⟩ := same.closed fd
      refine ⟨_, ⟨sameRet.symm.trans returned, rfl⟩, sameTable, ?_⟩
      intro seen place
      refine entries seen (place.imp_right ?_)
      rintro ⟨_, closed⟩
      simp only [Event.closed.injEq] at closed
      exact closed.1.symm

end

/-! Every value of `whence`: besides the three above there are `SEEK_DATA` and `SEEK_HOLE`. -/

def nextData (hole : Nat → Bool) (size start : Nat) : Option Nat :=
  (List.range' start (size - start)).find? fun place => ! hole place

/-- The first byte from `start` on that lies in a hole; every file has a hole at its end. -/
def nextHole (hole : Nat → Bool) (size start : Nat) : Option Nat :=
  if start < size then some (((List.range' start (size - start)).find? hole).getD size) else none

def fileSize (files : String → Option Bytes) (descriptor : Descriptor) : Nat :=
  ((files descriptor.file).getD []).length

section
variable (files : String → Option Bytes) (holes : String → Nat → Bool)

def seekPlace (descriptor : Descriptor) (offset : Int) : Int → Option Int
  | 0 => some (seekTarget files descriptor offset .set)
  | 1 => some (seekTarget files descriptor offset .cur)
  | 2 => some (seekTarget files descriptor offset .fromEnd)
  | 3 =>
      if offset < 0 then none
      else (nextData (holes descriptor.file) (fileSize files descriptor) offset.toNat).map Int.ofNat
  | 4 =>
      if offset < 0 then none
      else (nextHole (holes descriptor.file) (fileSize files descriptor) offset.toNat).map Int.ofNat
  | _ => none

def lseek64 (table : Table) (fd offset whence : Int) : Int × Table :=
  match table[fd]? with
  | none => (-1, table)
  | some descriptor =>
      match seekPlace files holes descriptor offset whence with
      | none => (-1, table)
      | some place =>
          if 0 ≤ place ∧ place < 2 ^ 63 then
            (place, table.insert fd { descriptor with position := place.toNat })
          else (-1, table)

end

section
variable {files : String → Option Bytes} {holes : String → Nat → Bool} {table : Table}
  {fd offset whence : Int} {descriptor : Descriptor}

theorem lseek64_range (files : String → Option Bytes) (holes : String → Nat → Bool)
    (table : Table) (fd offset whence : Int) :
    -1 ≤ (lseek64 files holes table fd offset whence).1 ∧
      (lseek64 files holes table fd offset whence).1 < 2 ^ 63 := by
  unfold lseek64
  split
  · simp
  · split
    · simp
    · split
      · rename_i bounds
        dsimp only
        omega
      · simp

theorem lseek64_lt_iff (found : table[fd]? = some descriptor) :
    (lseek64 files holes table fd offset whence).1 < 2 ^ 31 ↔
      ∀ place, seekPlace files holes descriptor offset whence = some place →
        place < 2 ^ 31 ∨ 2 ^ 63 ≤ place := by
  simp only [lseek64, found]
  cases asked : seekPlace files holes descriptor offset whence with
  | none => simp
  | some place =>
      simp only [Option.some.injEq, forall_eq']
      split
      · omega
      · dsimp only
        omega

end

end Posix
