import HvacCache.DataMover

/-! The read handler of a server. What its read or pread returns passes through an unsigned
size to the bulk transfer before it is sent back. -/

namespace HvacCache

open Posix Std

section
variable {contents : String → Option Bytes}

theorem handlerRead_of_readable {server : Server} {accessfd : Int} {descriptor : Descriptor}
    {bytes : Bytes} (found : server.kernel[accessfd]? = some descriptor)
    (visible : Posix.readable (server.files contents) descriptor = some bytes) (count : Nat) :
    (count < 2 ^ 63 → handlerRead contents server false accessfd count (-1) =
        (delivered (slice bytes descriptor.position count),
          server.kernel.insert accessfd { descriptor with
            position := descriptor.position + (slice bytes descriptor.position count).length })) ∧
      ∀ offset : Int, 0 ≤ offset → offset + count < 2 ^ 63 →
        handlerRead contents server false accessfd count offset =
          (delivered (slice bytes offset.toNat count), server.kernel) := by
  constructor
  · intro small
    simp [handlerRead, read_of_readable found visible small]
  · intro offset lower upper
    have notRead : offset ≠ -1 := by omega
    simp [handlerRead, notRead, pread_of_readable found visible lower upper]

theorem int32_uint64_delivered (bytes : Bytes) (position count : Nat) :
    int32 (uint64 (delivered (slice bytes position count)).ret) =
      (delivered (slice bytes position count)).ret := by
  have bound := (slice_length_le bytes position count).2
  simp only [maxTransfer] at bound
  simp only [delivered]
  rw [uint64_of_nonneg (by omega) (by omega), Int.toNat_natCast]
  exact int32_of_nonneg (by omega) (by omega)

/-- The offset of a request for `size` bytes is one that the handler's call takes: `-1` for
a read, or where a pread of that size may start. -/
def Placed (size : Nat) (offset : Int) : Prop :=
  offset = -1 ∧ size < 2 ^ 63 ∨ 0 ≤ offset ∧ offset + size < 2 ^ 63

/-- The read or pread of the handler does not fail: the call itself goes through, the
descriptor is open on a file that is there, and the range is one that can be read. -/
structure ReadSucceeds (contents : String → Option Bytes) (server : Server) (failure : Bool)
    (accessfd : Int) (size : Nat) (offset : Int) : Prop where
  called : failure = false
  readable : ((server.kernel[accessfd]?).bind (readable (server.files contents))).isSome
  placed : Placed size offset

theorem ret_bounds_of_slice (bytes : Bytes) (position size : Nat) :
    0 ≤ (delivered (slice bytes position size)).ret ∧
      (delivered (slice bytes position size)).ret ≤ size ∧
      (delivered (slice bytes position size)).ret ≤ maxTransfer := by
  obtain ⟨short, bounded⟩ := slice_length_le bytes position size
  simp only [delivered]
  omega

theorem handlerRead_ret {server : Server} {failure : Bool} {accessfd offset : Int} {size : Nat}
    (succeeds : ReadSucceeds contents server failure accessfd size offset) :
    0 ≤ (handlerRead contents server failure accessfd size offset).1.ret ∧
      (handlerRead contents server failure accessfd size offset).1.ret ≤ size ∧
      (handlerRead contents server failure accessfd size offset).1.ret ≤ maxTransfer := by
  obtain ⟨rfl, visible, placed⟩ := succeeds
  obtain ⟨bytes, found⟩ := Option.isSome_iff_exists.mp visible
  obtain ⟨descriptor, located, shown⟩ := Option.bind_eq_some_iff.mp found
  obtain ⟨readCase, preadCase⟩ := handlerRead_of_readable located shown size
  rcases placed with ⟨same, small⟩ | ⟨lower, upper⟩
  · rw [same, readCase small]
    exact ret_bounds_of_slice bytes descriptor.position size
  · rw [preadCase offset lower upper]
    exact ret_bounds_of_slice bytes offset.toNat size

theorem handlerRead_failed {server : Server} {failure : Bool} {accessfd offset : Int} {size : Nat}
    (fails : ¬ ReadSucceeds contents server failure accessfd size offset) :
    (handlerRead contents server failure accessfd size offset).1 = failed := by
  unfold handlerRead
  split
  · rfl
  · rename_i called
    have stuck : (server.kernel[accessfd]?).bind (readable (server.files contents)) = none ∨
        ¬ Placed size offset := by
      by_contra both
      simp only [not_or, not_not] at both
      exact fails ⟨by simpa using called, Option.isSome_iff_ne_none.mpr both.1, both.2⟩
    rcases stuck with missing | outside
    · split
      · rw [read_unreadable missing]
      · exact pread_unreadable missing size offset
    · split
      · rename_i whole
        rw [read_refused _ _ _ (fun small => outside (Or.inl ⟨whole, small⟩))]
      · rw [pread_refused _ _ _ (fun inside => outside (Or.inr inside))]

theorem readSucceeds_of_fits {server : Server} {failure : Bool} {accessfd offset : Int} {size : Nat}
    (small : size < 2 ^ 64 - 1)
    (fits : uint64 (handlerRead contents server failure accessfd size offset).1.ret ≤ size) :
    ReadSucceeds contents server failure accessfd size offset := by
  by_contra fails
  rw [handlerRead_failed fails] at fits
  have wrapped : uint64 failed.ret = 2 ^ 64 - 1 := by decide
  omega

theorem readFileStep_of_succeeds {server : Server} {failure : Bool} {handle : Handle}
    {inputVal accessfd offset : Int}
    (reading : server.handler = .readRpc handle inputVal accessfd offset)
    (lower : 0 ≤ inputVal)
    (succeeds : ReadSucceeds contents server failure accessfd (uint64 inputVal) offset) :
    let outcome := handlerRead contents server failure accessfd (uint64 inputVal) offset
    uint64 outcome.1.ret ≤ uint64 inputVal ∧
      readFileStep contents server failure =
        some ({ server with kernel := outcome.2, handler := .idle },
          some (.rpcOut handle (int32 outcome.1.ret) outcome.1.data)) := by
  intro outcome
  obtain ⟨positive, short, bounded⟩ : 0 ≤ outcome.1.ret ∧ outcome.1.ret ≤ uint64 inputVal ∧
      outcome.1.ret ≤ maxTransfer := handlerRead_ret succeeds
  simp only [maxTransfer] at bounded
  have size : uint64 outcome.1.ret = outcome.1.ret.toNat := uint64_of_nonneg positive (by omega)
  have fits : uint64 outcome.1.ret ≤ uint64 inputVal := by omega
  have returned : ((uint64 outcome.1.ret : Nat) : Int) = outcome.1.ret := by omega
  refine ⟨fits, ?_⟩
  simp only [readFileStep, reading, if_neg (Int.not_lt.mpr lower)]
  rw [if_pos fits, returned]

structure PushInside (contents : String → Option Bytes) (server : Server) (failure : Bool)
    (handle : Handle) (inputVal : Int) (outcome : ReadResult) : Prop where
  fits : uint64 outcome.ret ≤ uint64 inputVal
  answered : ∃ next, readFileStep contents server failure =
    some (next, some (.rpcOut handle (int32 outcome.ret) outcome.data))

/-- The transfer stays inside the buffer, and the outcome reaches the origin, exactly when
the server's read does not fail. -/
theorem bulk_push_inside (contents : String → Option Bytes) (server : Server) (failure : Bool)
    (handle : Handle) (inputVal accessfd offset : Int)
    (reading : server.handler = .readRpc handle inputVal accessfd offset)
    (lower : 0 ≤ inputVal) (upper : inputVal < 2 ^ 31) :
    PushInside contents server failure handle inputVal
        (handlerRead contents server failure accessfd (uint64 inputVal) offset).1 ↔
      ReadSucceeds contents server failure accessfd (uint64 inputVal) offset := by
  constructor
  · intro inside
    have size : uint64 inputVal = inputVal.toNat := uint64_of_nonneg lower (by omega)
    exact readSucceeds_of_fits (by omega) inside.fits
  · intro succeeds
    obtain ⟨fits, stepped⟩ := readFileStep_of_succeeds reading lower succeeds
    exact ⟨fits, _, stepped⟩

def readHandle : Handle := { client := 0, callback := .readCb }

def readServer (accessfd : Int) : Server :=
  { Server.initial with
    kernel := (∅ : Table).insert 5 { file := "/d/f", mode := .readOnly, position := 0 }
    handler := .readRpc readHandle 2 accessfd (-1) }

theorem bulk_push_inside_open :
    PushInside oneFile (readServer 5) false readHandle 2
      (handlerRead oneFile (readServer 5) false 5 (uint64 2) (-1)).1 :=
  (bulk_push_inside oneFile (readServer 5) false readHandle 2 5 (-1) rfl (by decide)
    (by decide)).mpr ⟨rfl, by decide, Or.inl (by decide)⟩

theorem failed_read_overruns : ¬ ∀ (contents : String → Option Bytes) (server : Server)
    (failure : Bool) (handle : Handle) (inputVal accessfd offset : Int),
    server.handler = .readRpc handle inputVal accessfd offset → 0 ≤ inputVal →
    inputVal < 2 ^ 31 →
    PushInside contents server failure handle inputVal
      (handlerRead contents server failure accessfd (uint64 inputVal) offset).1 := by
  intro inside
  have bound := (inside oneFile (readServer (-1)) false readHandle 2 (-1) (-1) rfl (by decide)
    (by decide)).fits
  revert bound
  decide

end

end HvacCache
