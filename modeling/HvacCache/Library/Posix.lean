import HvacCache.Library.OrderedMap
import HvacCache.Library.Transition

/-! The descriptor table of a process and the calls that use it, over a fixed
assignment of contents to files, together with the conversions between the
integer types that carry counts and results. -/

namespace Posix

abbrev Bytes := List UInt8

def int32 (value : Int) : Int := value.bmod (2 ^ 32)

def uint32 (value : Int) : Nat := (value % 2 ^ 32).toNat

def int64 (value : Int) : Int := value.bmod (2 ^ 64)

def uint64 (value : Int) : Nat := (value % 2 ^ 64).toNat

@[simp] theorem int32_neg_one : int32 (-1) = -1 := by decide

theorem int32_of_nonneg {value : Int} (lower : 0 ≤ value) (upper : value < 2 ^ 31) :
    int32 value = value := by
  unfold int32
  rw [Int.bmod_def]
  have small : value % ((2 ^ 32 : Nat) : Int) = value := Int.emod_eq_of_lt lower (by omega)
  rw [small, if_pos (by omega)]

theorem int32_lt (value : Int) : int32 value < 2 ^ 31 := by
  unfold int32
  have bound : value.bmod (2 ^ 32) < (((2 ^ 32 : Nat) : Int) + 1) / 2 := Int.bmod_lt (by decide)
  omega

theorem int32_toNat_le (count : Nat) : (int32 count).toNat ≤ count := by
  unfold int32
  rw [Int.bmod_def]
  split <;> omega

theorem int32_bounds (value : Int) : -2 ^ 31 ≤ int32 value ∧ int32 value < 2 ^ 31 := by
  unfold int32
  rw [Int.bmod_def]
  split <;> omega

theorem int32_eq_iff {value : Int} (lower : -1 ≤ value) : int32 value = value ↔ value < 2 ^ 31 := by
  constructor
  · intro kept
    rw [← kept]
    exact int32_lt value
  · intro upper
    by_cases failure : value = -1
    · rw [failure]
      exact int32_neg_one
    · exact int32_of_nonneg (by omega) upper

theorem uint32_lt (value : Int) : uint32 value < 2 ^ 32 := by
  unfold uint32
  omega

theorem uint64_of_nonneg {value : Int} (lower : 0 ≤ value) (upper : value < 2 ^ 64) :
    uint64 value = value.toNat := by
  unfold uint64
  rw [Int.emod_eq_of_lt lower upper]

theorem int64_uint64 {value : Int} (lower : -2 ^ 63 ≤ value) (upper : value < 2 ^ 63) :
    int64 (uint64 value) = value := by
  unfold int64 uint64
  rw [Int.bmod_def]
  split <;> omega

theorem int64_uint64_int32 (value : Int) : int64 (uint64 (int32 value)) = int32 value := by
  obtain ⟨lower, upper⟩ := int32_bounds value
  apply int64_uint64
  · omega
  · omega

inductive AccessMode
  | readOnly
  | writeOnly
  | readWrite
deriving DecidableEq, Repr

structure Descriptor where
  file : String
  mode : AccessMode
  position : Nat
deriving DecidableEq, Repr

abbrev Table := OrderedMap Int Descriptor

structure ReadResult where
  ret : Int
  data : Bytes
deriving DecidableEq, Repr

def failed : ReadResult := { ret := -1, data := [] }

/-- The most a single transfer moves on Linux. -/
def maxTransfer : Nat := 0x7ffff000

def slice (bytes : Bytes) (position count : Nat) : Bytes :=
  (bytes.drop position).take (min count maxTransfer)

def delivered (data : Bytes) : ReadResult := { ret := data.length, data }

def readable (files : String → Option Bytes) (descriptor : Descriptor) : Option Bytes :=
  if descriptor.mode = .writeOnly then none else files descriptor.file

/-- A count that is negative as an `ssize_t` is refused. -/
def read (files : String → Option Bytes) (table : Table) (fd : Int) (count : Nat) :
    ReadResult × Table :=
  match table[fd]? with
  | none => (failed, table)
  | some descriptor =>
      match readable files descriptor with
      | none => (failed, table)
      | some bytes =>
          if count < 2 ^ 63 then
            let data := slice bytes descriptor.position count
            (delivered data,
              table.insert fd { descriptor with position := descriptor.position + data.length })
          else (failed, table)

def SameFiles (table other : Table) : Prop :=
  ∀ fd : Int, (table[fd]?).map (fun descriptor => (descriptor.file, descriptor.mode)) =
    (other[fd]?).map fun descriptor => (descriptor.file, descriptor.mode)

theorem SameFiles.refl (table : Table) : SameFiles table table := fun _ => rfl

theorem SameFiles.symm {table other : Table} (same : SameFiles table other) :
    SameFiles other table := fun fd => (same fd).symm

theorem SameFiles.found {table other : Table} (same : SameFiles table other) {fd : Int}
    {descriptor : Descriptor} (found : table[fd]? = some descriptor) :
    ∃ shifted, other[fd]? = some shifted ∧ shifted.file = descriptor.file ∧
      shifted.mode = descriptor.mode := by
  have equal := same fd
  rw [found, Option.map_some, eq_comm, Option.map_eq_some_iff] at equal
  obtain ⟨shifted, present, fields⟩ := equal
  simp only [Prod.mk.injEq] at fields
  exact ⟨shifted, present, fields.1, fields.2⟩

theorem read_sameFiles (files : String → Option Bytes) (table : Table) (fd : Int) (count : Nat) :
    SameFiles table (read files table fd count).2 := by
  intro other
  unfold read
  split
  · rfl
  · rename_i descriptor found
    split
    · rfl
    · split
      · simp only [OrderedMap.getElem?_insert_ite]
        split
        · rename_i same
          rw [← same, found]
          rfl
        · rfl
      · rfl

/-- The range has to end within the offsets of an `off_t`. -/
def pread (files : String → Option Bytes) (table : Table) (fd : Int) (count : Nat) (offset : Int) :
    ReadResult :=
  match table[fd]? with
  | none => failed
  | some descriptor =>
      match readable files descriptor with
      | none => failed
      | some bytes =>
          if 0 ≤ offset ∧ offset + count < 2 ^ 63 then delivered (slice bytes offset.toNat count)
          else failed

/-! What a transfer delivers. -/

theorem slice_length_le (bytes : Bytes) (position count : Nat) :
    (slice bytes position count).length ≤ count ∧
      (slice bytes position count).length ≤ maxTransfer := by
  simp only [slice, List.length_take]
  omega

theorem read_of_readable {files : String → Option Bytes} {table : Table} {fd : Int}
    {descriptor : Descriptor} {bytes : Bytes} (found : table[fd]? = some descriptor)
    (visible : readable files descriptor = some bytes) {count : Nat} (small : count < 2 ^ 63) :
    read files table fd count =
      (delivered (slice bytes descriptor.position count),
        table.insert fd { descriptor with
          position := descriptor.position + (slice bytes descriptor.position count).length }) := by
  simp only [read, found, visible, if_pos small]

theorem pread_of_readable {files : String → Option Bytes} {table : Table} {fd : Int}
    {descriptor : Descriptor} {bytes : Bytes} (found : table[fd]? = some descriptor)
    (visible : readable files descriptor = some bytes) {count : Nat} {offset : Int}
    (lower : 0 ≤ offset) (upper : offset + count < 2 ^ 63) :
    pread files table fd count offset = delivered (slice bytes offset.toNat count) := by
  simp only [pread, found, visible, if_pos (And.intro lower upper)]

theorem read_unreadable {files : String → Option Bytes} {table : Table} {fd : Int}
    (missing : (table[fd]?).bind (readable files) = none) (count : Nat) :
    read files table fd count = (failed, table) := by
  unfold read
  split
  · rfl
  · rename_i descriptor found
    rw [found, Option.bind_some] at missing
    simp only [missing]

theorem pread_unreadable {files : String → Option Bytes} {table : Table} {fd : Int}
    (missing : (table[fd]?).bind (readable files) = none) (count : Nat) (offset : Int) :
    pread files table fd count offset = failed := by
  unfold pread
  split
  · rfl
  · rename_i descriptor found
    rw [found, Option.bind_some] at missing
    simp only [missing]

theorem read_refused (files : String → Option Bytes) (table : Table) (fd : Int) {count : Nat}
    (large : ¬ count < 2 ^ 63) : read files table fd count = (failed, table) := by
  unfold read
  split
  · rfl
  · split
    · rfl
    · rw [if_neg large]

theorem pread_refused (files : String → Option Bytes) (table : Table) (fd : Int) {count : Nat}
    {offset : Int} (outside : ¬ (0 ≤ offset ∧ offset + count < 2 ^ 63)) :
    pread files table fd count offset = failed := by
  unfold pread
  split
  · rfl
  · split
    · rfl
    · rw [if_neg outside]

theorem read_congr (files : String → Option Bytes) {table other : Table} {fd : Int}
    (same : table[fd]? = other[fd]?) (count : Nat) :
    (read files table fd count).1 = (read files other fd count).1 ∧
      (read files table fd count).2[fd]? = (read files other fd count).2[fd]? := by
  unfold read
  rw [same]
  split
  · exact ⟨rfl, same⟩
  · split
    · exact ⟨rfl, same⟩
    · split
      · exact ⟨rfl, by simp⟩
      · exact ⟨rfl, same⟩

theorem read_other {files : String → Option Bytes} {table : Table} {fd other : Int} {count : Nat}
    (different : other ≠ fd) : (read files table fd count).2[other]? = table[other]? := by
  unfold read
  split
  · rfl
  · split
    · rfl
    · split
      · simp only [OrderedMap.getElem?_insert_ite, if_neg (Ne.symm different)]
      · rfl

theorem pread_congr {files : String → Option Bytes} {table other : Table} {fd : Int}
    (same : (table[fd]?).map (readable files) = (other[fd]?).map (readable files)) (count : Nat)
    (offset : Int) : pread files table fd count offset = pread files other fd count offset := by
  unfold pread
  cases first : table[fd]? with
  | none =>
      cases second : other[fd]? with
      | none => rfl
      | some descriptor => simp [first, second] at same
  | some descriptor =>
      cases second : other[fd]? with
      | none => simp [first, second] at same
      | some shifted =>
          simp only [first, second, Option.map_some, Option.some.injEq] at same
          simp only [same]

theorem int32_read_ret (files : String → Option Bytes) (table : Table) (fd : Int) (count : Nat) :
    int32 (read files table fd count).1.ret = (read files table fd count).1.ret := by
  unfold read
  split
  · exact int32_neg_one
  · rename_i descriptor found
    split
    · exact int32_neg_one
    · rename_i bytes visible
      split
      · have bound := (slice_length_le bytes descriptor.position count).2
        simp only [maxTransfer] at bound
        simp only [delivered]
        exact int32_of_nonneg (by omega) (by omega)
      · exact int32_neg_one

def close (table : Table) (fd : Int) : Int × Table :=
  match table[fd]? with
  | none => (-1, table)
  | some _ => (0, table.erase fd)

theorem close_congr {table other : Table} {fd : Int} (same : table[fd]? = other[fd]?) :
    (close table fd).1 = (close other fd).1 ∧
      (close table fd).2[fd]? = (close other fd).2[fd]? := by
  unfold close
  rw [same]
  split
  · exact ⟨rfl, same⟩
  · exact ⟨rfl, by simp⟩

theorem close_other {table : Table} {fd other : Int} (different : other ≠ fd) :
    (close table fd).2[other]? = table[other]? := by
  unfold close
  split
  · rfl
  · rw [OrderedMap.getElem?_erase_ite, if_neg (Ne.symm different)]

/-- The numbers an open call may return besides `-1`. -/
def Unused (table : Table) (fd : Int) : Prop := 0 ≤ fd ∧ table[fd]? = none

instance (table : Table) (fd : Int) : Decidable (Unused table fd) :=
  inferInstanceAs (Decidable (_ ∧ _))

theorem exists_unused (table : Table) : ∃ fd : Int, Unused table fd := by
  have weigh : ∀ (fd : Int) (descriptor : Descriptor), table[fd]? = some descriptor →
      fd.natAbs ≤ OrderedMap.total (fun entry => entry.1.natAbs) table := by
    intro fd descriptor found
    rw [OrderedMap.total_of_getElem? _ found]
    omega
  refine ⟨OrderedMap.total (fun entry => entry.1.natAbs) table + 1, by omega, ?_⟩
  by_contra used
  obtain ⟨descriptor, found⟩ := Option.ne_none_iff_exists'.mp used
  have bound := weigh _ descriptor found
  omega

inductive Event
  | opened (file : String) (mode : AccessMode) (fd : Int)
  | openFailed
  | read (fd : Int) (count : Nat) (result : ReadResult)
  | pread (fd : Int) (count : Nat) (offset : Int) (result : ReadResult)
  | closed (fd : Int) (ret : Int)
deriving DecidableEq, Repr

/-- One call on the table, refused when its recorded result is not the one the call
gives there. A run of this function is a history of plain calls. -/
def replay (files : String → Option Bytes) (table : Table) : Event → Option Table
  | .opened file mode fd =>
      if Unused table fd ∧ (files file).isSome then
        some (table.insert fd { file, mode, position := 0 })
      else none
  | .openFailed => some table
  | .read fd count result =>
      let outcome := read files table fd count
      if outcome.1 = result then some outcome.2 else none
  | .pread fd count offset result =>
      if pread files table fd count offset = result then some table else none
  | .closed fd ret =>
      let outcome := close table fd
      if outcome.1 = ret then some outcome.2 else none

theorem replay_append {files : String → Option Bytes} {events : List Event} {event : Event}
    {table after : Table} (replayed : Transition.run (replay files) ∅ events = some table)
    (stepped : replay files table event = some after) :
    Transition.run (replay files) ∅ (events ++ [event]) = some after :=
  (Transition.run_concat ∅ events event after).mpr ⟨table, replayed, stepped⟩

end Posix
