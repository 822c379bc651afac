import HvacCache.FreshDescriptor

/-! The count and the offset of a read on their way to the server. The count becomes an
`int32_t`, and the offset `-1` stands for a read that is no pread. -/

namespace HvacCache

open Posix Std

section
variable {env : ClientEnv} {contents : String → Option Bytes} (self : Nat) {fd : Int}
  {file : TrackedFile} {client : Client} {server after : Server} {kind : ReadKind}

/-! Counts beyond 32 bits. -/

structure Delivers (bytes : Bytes) (position count : Nat) (result : ReadResult) : Prop where
  bounded : result.ret ≤ count
  counted : result.ret = result.data.length
  front : result.data <+: bytes.drop position
  ended : result.ret = 0 → count = 0 ∨ bytes.length ≤ position

theorem delivers_slice_iff (bytes : Bytes) (position : Nat) {asked count : Nat}
    (bounded : asked ≤ count) :
    Delivers bytes position count (delivered (slice bytes position asked)) ↔
      (asked = 0 → count = 0 ∨ bytes.length ≤ position) := by
  constructor
  · intro delivers none
    refine delivers.ended ?_
    simp [delivered, slice, none]
  · intro ended
    have short := (slice_length_le bytes position asked).1
    refine ⟨?_, rfl, List.take_prefix _ _, ?_⟩
    · simp only [delivered]
      omega
    · intro empty
      simp only [delivered, slice, maxTransfer, List.length_take, List.length_drop] at empty
      by_cases none : asked = 0
      · exact ended none
      · right
        omega

/-- A call on a tracked descriptor returns, with what it should deliver. -/
def RoundDelivers (env : ClientEnv) (contents : String → Option Bytes) (self : Nat) (fd : Int)
    (bytes : Bytes) (state : Client × Server) (kind : ReadKind) (position count : Nat) : Prop :=
  ∃ next result, callRound env contents self false state (kind.action fd count) = some next ∧
    next.1.trace = state.1.trace ++ [kind.event fd count result] ∧
    Delivers bytes position count result

theorem ReadKind.event_injective (kind : ReadKind) {first second : ReadResult} {count : Nat}
    (same : kind.event fd count first = kind.event fd count second) : first = second := by
  cases kind with
  | sequential => simpa [ReadKind.event] using same
  | positional offset => simpa [ReadKind.event] using same

theorem roundDelivers_iff {bytes : Bytes} {next : Client} {position count : Nat}
    {result : ReadResult}
    (ran : callRound env contents self false (client, server) (kind.action fd count) =
      some (next, after))
    (traced : next.trace = client.trace ++ [kind.event fd count result]) :
    RoundDelivers env contents self fd bytes (client, server) kind position count ↔
      Delivers bytes position count result := by
  constructor
  · rintro ⟨other, seen, again, told, delivers⟩
    rw [ran, Option.some.injEq] at again
    subst other
    rw [traced, List.append_cancel_left_eq, List.cons.injEq] at told
    rwa [kind.event_injective told.1]
  · intro delivers
    exact ⟨_, result, ran, traced, delivers⟩

theorem Tracks.pread_local (tracks : Tracks env contents fd file client server) {count : Nat}
    {offset : Int} (placed : (ReadKind.positional offset).Placed count) :
    pread contents client.kernel fd count offset =
      delivered (slice file.bytes offset.toNat count) := by
  obtain ⟨descriptor, opened, visible⟩ := tracks.opened
  exact pread_of_readable opened visible placed.1 placed.2

theorem Tracks.roundDelivers_remote (tracks : Tracks env contents fd file client server)
    {descriptor : Descriptor} (held : server.kernel[file.remote]? = some descriptor)
    (kind : ReadKind) {count : Nat} (placed : kind.Placed (int32 count).toNat)
    (leaves : ¬ kind.Stays file.remote) :
    RoundDelivers env contents self fd file.bytes (client, server) kind
        (kind.start descriptor.position) count ↔
      0 < int32 count ∨
        int32 count = 0 ∧ (count = 0 ∨ file.bytes.length ≤ kind.start descriptor.position) := by
  rcases Int.lt_or_le (int32 count) 0 with negative | possible
  · obtain ⟨aborted, stepped⟩ :=
      readFileStep_negative self contents server false file.remote kind negative
    have none := tracks.unanswered self false count leaves stepped
    constructor
    · rintro ⟨next, result, ran, _⟩
      simp [none] at ran
    · omega
  · have upper := int32_lt count
    have size : uint64 (int32 count) = (int32 count).toNat :=
      uint64_of_nonneg possible (by omega)
    rw [← size] at placed
    obtain ⟨next, served, ran, _, _, _, traced⟩ :=
      tracks.round_succeeds self count kind possible leaves
        (tracks.readSucceeds self held count placed)
    have outcome := tracks.handlerRead self held count placed
    rw [outcome, size] at traced
    rw [roundDelivers_iff self ran traced, delivers_slice_iff _ _ (int32_toNat_le count)]
    omega

theorem Tracks.roundDelivers_local (tracks : Tracks env contents fd file client server)
    (count : Nat) (offset : Int) (zero : file.remote = 0) :
    RoundDelivers env contents self fd file.bytes (client, server) (.positional offset)
        offset.toNat count ↔ (ReadKind.positional offset).Placed count := by
  refine (roundDelivers_iff self (tracks.stays self false count offset zero) rfl).trans ?_
  constructor
  · intro delivers
    by_contra outside
    have counted := delivers.counted
    rw [pread_refused contents client.kernel fd outside] at counted
    exact absurd counted (by decide)
  · intro placed
    rw [tracks.pread_local placed]
    exact (delivers_slice_iff _ _ (Nat.le_refl count)).mpr Or.inl

/-- The server has the file open, and its calls succeed. A call that reaches it gives the
bytes it is asked for unless the low half of the count is negative as an `int32_t`, or is 0
where the whole count is not and bytes are left. A pread that stays with the client does what
pread does. -/
theorem large_counts_deliver (tracks : Tracks env contents fd file client server)
    {descriptor : Descriptor} (held : server.kernel[file.remote]? = some descriptor)
    (kind : ReadKind) (count : Nat)
    (placed : ¬ kind.Stays file.remote → kind.Placed (int32 count).toNat) :
    RoundDelivers env contents self fd file.bytes (client, server) kind
        (kind.start descriptor.position) count ↔
      kind.Stays file.remote ∧ kind.Placed count ∨
      ¬ kind.Stays file.remote ∧ (0 < int32 count ∨
        int32 count = 0 ∧ (count = 0 ∨ file.bytes.length ≤ kind.start descriptor.position)) := by
  by_cases stays : kind.Stays file.remote
  · simp only [stays, true_and, not_true, false_and, or_false]
    cases kind with
    | sequential => exact absurd stays id
    | positional offset => exact tracks.roundDelivers_local self count offset stays
  · simpa only [stays, false_and, not_false_eq_true, true_and, false_or] using
      tracks.roundDelivers_remote self held kind (placed stays) stays

theorem tracks_oneFile : ∃ file client server descriptor,
    openRound twoServers oneFile 0 (Client.initial, Server.initial) "/d/f" readOnly 3 5 =
      some (client, server) ∧
    Tracks twoServers oneFile 3 file client server ∧
    server.kernel[file.remote]? = some descriptor ∧
    file.remote = 5 ∧ file.bytes = [1, 2, 3] ∧ descriptor.position = 0 := by
  obtain ⟨⟨client, server⟩, shared, opened, whole, paired⟩ := openRound_oneFile
  have remote : (openRound twoServers oneFile 0 (Client.initial, Server.initial) "/d/f" readOnly
      3 5).map (fun state => state.1.fdRedirMap[(3 : Int)]?) = some (some 5) := by decide
  rw [opened, Option.map_some, paired.redirected] at remote
  exact ⟨_, client, server, _, opened, paired.tracks, paired.served, by simpa using remote, whole,
    rfl⟩

theorem large_counts_deliver_oneFile : ∃ (file : TrackedFile) (client : Client) (server : Server),
    openRound twoServers oneFile 0 (Client.initial, Server.initial) "/d/f" readOnly 3 5 =
      some (client, server) ∧
    RoundDelivers twoServers oneFile 0 3 file.bytes (client, server) .sequential 0
      (2 ^ 32 + 2) := by
  obtain ⟨file, client, server, descriptor, opened, tracks, held, _, _, start⟩ := tracks_oneFile
  refine ⟨file, client, server, opened, ?_⟩
  have deliver := (large_counts_deliver 0 tracks held .sequential (2 ^ 32 + 2)
    (fun _ => show (int32 (2 ^ 32 + 2 : Nat)).toNat < 2 ^ 63 by decide)).mpr
    (Or.inr ⟨id, Or.inl (by decide)⟩)
  rwa [ReadKind.start, start] at deliver

theorem large_count_reads_nothing : ∃ (file : TrackedFile) (client : Client) (server : Server),
    openRound twoServers oneFile 0 (Client.initial, Server.initial) "/d/f" readOnly 3 5 =
      some (client, server) ∧
    file.bytes = [1, 2, 3] ∧ Tracks twoServers oneFile 3 file client server ∧
    ¬ RoundDelivers twoServers oneFile 0 3 file.bytes (client, server) .sequential 0
      (2 ^ 32) := by
  obtain ⟨file, client, server, descriptor, opened, tracks, held, _, whole, start⟩ :=
    tracks_oneFile
  refine ⟨file, client, server, opened, whole, tracks, ?_⟩
  have small : ReadKind.sequential.Placed (int32 (2 ^ 32 : Nat)).toNat :=
    show (int32 (2 ^ 32 : Nat)).toNat < 2 ^ 63 by decide
  have condition := tracks.roundDelivers_remote 0 held .sequential small id
  rw [ReadKind.start, start] at condition
  rw [condition, whole]
  decide

/-! Offsets. -/

/-- A call of pread returns what the pread of the local descriptor returns, and moves
neither of the two positions. -/
def PreadAgrees (env : ClientEnv) (contents : String → Option Bytes) (self : Nat) (fd : Int)
    (failure : Bool) (client : Client) (server : Server) (count : Nat) (offset : Int) : Prop :=
  ∃ next after, callRound env contents self failure (client, server)
      (.preadCall fd count offset) = some (next, after) ∧
    next.trace = client.trace ++
      [.pread fd count offset (pread contents client.kernel fd count offset)] ∧
    next.kernel = client.kernel ∧ after.kernel = server.kernel

theorem Tracks.preadAgrees_remote (tracks : Tracks env contents fd file client server)
    (failure : Bool) {count : Nat} (whole : int32 count = count) (offset : Int)
    (leaves : ¬ (ReadKind.positional offset).Stays file.remote) :
    PreadAgrees env contents self fd failure client server count offset ↔
      0 ≤ offset ∧ offset + count < 2 ^ 63 ∧ failure = false ∧
        (server.kernel[file.remote]?).isSome := by
  have possible : 0 ≤ int32 count := by omega
  have upper := int32_lt count
  have size : uint64 (int32 count) = count := by
    rw [uint64_of_nonneg possible (by omega), whole, Int.toNat_natCast]
  constructor
  · rintro ⟨next, after, ran, traced, _⟩
    by_cases succeeds : ReadSucceeds contents
        (server.asked self count file.remote (.positional offset)) failure file.remote
        (uint64 (int32 count)) offset
    · obtain ⟨other, served, again, _, _, positive, told⟩ :=
        tracks.round_succeeds self count (.positional offset) possible leaves succeeds
      obtain ⟨called, visible, _⟩ := succeeds
      suffices placed : 0 ≤ offset ∧ offset + count < 2 ^ 63 from
        ⟨placed.1, placed.2, called, Option.isSome_of_isSome_bind visible⟩
      by_contra outside
      simp only [ReadKind.action] at again
      rw [again, Option.some.injEq, Prod.mk.injEq] at ran
      rw [← ran.1, told, List.append_cancel_left_eq, List.cons.injEq] at traced
      have same := (ReadKind.positional offset).event_injective traced.1
      rw [same, pread_refused contents client.kernel fd outside] at positive
      exact absurd positive (by decide)
    · obtain ⟨aborted, stepped⟩ := readFileStep_failed self (.positional offset) possible succeeds
      have none := tracks.unanswered self failure count leaves stepped
      simp only [ReadKind.action] at none
      simp [none] at ran
  · rintro ⟨start, limit, rfl, visible⟩
    obtain ⟨descriptor, held⟩ := Option.isSome_iff_exists.mp visible
    have placed : (ReadKind.positional offset).Placed count := ⟨start, limit⟩
    obtain ⟨next, after, ran, kept, moved, _, traced⟩ :=
      tracks.round_succeeds self count (.positional offset) possible leaves
        (tracks.readSucceeds self held count (size.symm ▸ placed))
    have outcome := tracks.handlerRead self held count placed
    rw [size, outcome] at traced moved
    refine ⟨next, after, ran, ?_, kept, moved⟩
    rw [tracks.pread_local placed]
    exact traced

/-- Only a pread that the server can carry out comes back, and of those the one at `-1`,
which the server takes for a read, is no pread. The server cannot carry out one whose range
goes beyond the largest offset, which pread refuses. -/
theorem pread_positional (tracks : Tracks env contents fd file client server) (failure : Bool)
    (count : Nat) (upper : count ≤ 0x7ffff000) (offset : Int) :
    PreadAgrees env contents self fd failure client server count offset ↔
      file.remote = 0 ∨
        0 ≤ offset ∧ offset + count < 2 ^ 63 ∧ failure = false ∧
          (server.kernel[file.remote]?).isSome := by
  by_cases zero : file.remote = 0
  · simp only [zero, true_or, iff_true]
    exact ⟨_, server, tracks.stays self failure count offset zero, rfl, rfl, rfl⟩
  · have whole : int32 count = count := int32_of_nonneg (by omega) (by omega)
    simpa only [zero, false_or] using
      tracks.preadAgrees_remote self failure whole offset zero

theorem pread_positional_oneFile : ∃ client server,
    openRound twoServers oneFile 0 (Client.initial, Server.initial) "/d/f" readOnly 3 5 =
      some (client, server) ∧
    PreadAgrees twoServers oneFile 0 3 false client server 2 1 := by
  obtain ⟨file, client, server, descriptor, opened, tracks, held, _⟩ := tracks_oneFile
  refine ⟨client, server, opened, ?_⟩
  exact (pread_positional 0 tracks false 2 (by decide) 1).mpr
    (Or.inr ⟨by decide, by decide, rfl, by simp [held]⟩)

theorem pread_reads_on : ∃ (file : TrackedFile) (client : Client) (server : Server),
    openRound twoServers oneFile 0 (Client.initial, Server.initial) "/d/f" readOnly 3 5 =
      some (client, server) ∧
    Tracks twoServers oneFile 3 file client server ∧
    ¬ PreadAgrees twoServers oneFile 0 3 false client server 2 (-1) := by
  obtain ⟨file, client, server, descriptor, opened, tracks, held, remote, _⟩ := tracks_oneFile
  refine ⟨file, client, server, opened, tracks, ?_⟩
  have leaves : ¬ (ReadKind.positional (-1)).Stays file.remote := by
    simp [ReadKind.Stays, remote]
  rw [tracks.preadAgrees_remote 0 false (by decide) (-1) leaves]
  simp

end

end HvacCache
