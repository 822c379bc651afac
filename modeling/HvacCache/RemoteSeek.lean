import HvacCache.Library.Seek
import HvacCache.FreshDescriptor

/-! `hvac_remote_lseek` with the server of the file. The server answers with an `int32_t`. -/

namespace HvacCache

open Posix Std

structure SeekIn where
  fd : Int
  offset : Int
  whence : Int
deriving DecidableEq, Repr

/-- `hvac_client_comm_gen_seek_rpc`; without a server for the file the process dies. -/
def genSeekRpc (env : ClientEnv) (client : Client) (path : String) (fd offset whence : Int) :
    Option (Client × SeekIn) :=
  match route env client.addressCache path with
  | none => none
  | some (_, cache) =>
      let remote := OrderedMap.index client.fdRedirMap fd
      some ({ client with
          addressCache := cache
          completion := client.completion.resetReadRet.resetDone
          fdRedirMap := remote.2 },
        { fd := remote.1, offset, whence })

def seekRpcHandler (contents : String → Option Bytes) (holes : String → Nat → Bool)
    (server : Server) (input : SeekIn) : Int × Server :=
  let outcome :=
    lseek64 (server.files contents) holes server.kernel input.fd input.offset input.whence
  (int32 outcome.1, { server with kernel := outcome.2 })

def seekCb (client : Client) (ret : Int) : Client :=
  { client with completion := client.completion.readCb ret }

/-- `hvac_seek_block` keeps the result in a `size_t` until it returns it as an `ssize_t`. -/
def seekBlock (client : Client) : Option Int :=
  if client.completion.ready then some (int64 (uint64 client.completion.readRet)) else none

def remoteLseek (env : ClientEnv) (contents : String → Option Bytes)
    (holes : String → Nat → Bool) (state : Client × Server) (fd offset whence : Int) :
    Option (Int × Client × Server) :=
  match state.1.fdMap[fd]? with
  | none => some (-1, state)
  | some path =>
      match genSeekRpc env state.1 path fd offset whence with
      | none => none
      | some (waiting, input) =>
          let served := seekRpcHandler contents holes state.2 input
          let informed := seekCb waiting served.1
          (seekBlock informed).map fun ret => (ret, informed, served.2)

def SeekReported (env : ClientEnv) (contents : String → Option Bytes)
    (holes : String → Nat → Bool) (client : Client) (server : Server) (fd offset whence : Int) :
    Prop :=
  ∃ next, remoteLseek env contents holes (client, server) fd offset whence =
    some ((lseek64 (server.files contents) holes server.kernel
      (OrderedMap.index client.fdRedirMap fd).1 offset whence).1, next)

/-- An offset that the answer can hold, or that `lseek64` refuses. -/
def FitsReply (place : Int) : Prop := place < 2 ^ 31 ∨ 2 ^ 63 ≤ place

/-- The offsets that matter, for each `whence`. `SEEK_SET` asks for an `int`. -/
def SeekFits (files : String → Option Bytes) (holes : String → Nat → Bool)
    (descriptor : Descriptor) (offset : Int) : Int → Prop
  | 1 => FitsReply (descriptor.position + offset)
  | 2 => FitsReply (fileSize files descriptor + offset)
  | 3 => 0 ≤ offset → ∀ place : Nat,
      nextData (holes descriptor.file) (fileSize files descriptor) offset.toNat = some place →
      FitsReply place
  | 4 => 0 ≤ offset → ∀ place : Nat,
      nextHole (holes descriptor.file) (fileSize files descriptor) offset.toNat = some place →
      FitsReply place
  | _ => True

section
variable {env : ClientEnv} {contents : String → Option Bytes} {holes : String → Nat → Bool}
  {client : Client} {server : Server} {path : String} {fd offset whence : Int}
  {descriptor : Descriptor}

theorem remoteLseek_tracked (contents : String → Option Bytes) (holes : String → Nat → Bool)
    (server : Server) (tracked : client.fdMap[fd]? = some path)
    (routed : (route env client.addressCache path).isSome) (offset whence : Int) :
    let outcome := lseek64 (server.files contents) holes server.kernel
      (OrderedMap.index client.fdRedirMap fd).1 offset whence
    ∃ next after, remoteLseek env contents holes (client, server) fd offset whence =
        some (int32 outcome.1, next, after) ∧
      next.kernel = client.kernel ∧ after.kernel = outcome.2 := by
  intro outcome
  obtain ⟨⟨address, cache⟩, found⟩ := Option.isSome_iff_exists.mp routed
  have ready (ret : Int) :
      (client.completion.resetReadRet.resetDone.readCb ret).ready = true := rfl
  have returned (ret : Int) :
      (client.completion.resetReadRet.resetDone.readCb ret).readRet = ret := rfl
  simp only [remoteLseek, tracked, genSeekRpc, found, seekRpcHandler, seekCb, seekBlock, ready,
    returned, if_true, Option.map_some, int64_uint64_int32]
  exact ⟨_, _, rfl, rfl, rfl⟩

theorem seekReported_iff_lt (holes : String → Nat → Bool) (server : Server)
    (tracked : client.fdMap[fd]? = some path) (routed : (route env client.addressCache path).isSome)
    (offset whence : Int) :
    SeekReported env contents holes client server fd offset whence ↔
      (lseek64 (server.files contents) holes server.kernel
        (OrderedMap.index client.fdRedirMap fd).1 offset whence).1 < 2 ^ 31 := by
  obtain ⟨lower, _⟩ := lseek64_range (server.files contents) holes server.kernel
    (OrderedMap.index client.fdRedirMap fd).1 offset whence
  obtain ⟨next, after, returned, _⟩ :=
    remoteLseek_tracked contents holes server tracked routed offset whence
  rw [← int32_eq_iff lower, SeekReported, returned]
  constructor
  · rintro ⟨other, same⟩
    simp only [Option.some.injEq, Prod.mk.injEq] at same
    exact same.1
  · intro same
    rw [same]
    exact ⟨(next, after), rfl⟩

theorem seekFits_iff {files : String → Option Bytes} (narrow : offset < 2 ^ 31) :
    SeekFits files holes descriptor offset whence ↔
      ∀ place, seekPlace files holes descriptor offset whence = some place → FitsReply place := by
  unfold SeekFits seekPlace
  split
  · simp [seekTarget]
  · simp [seekTarget, fileSize]
  · by_cases negative : offset < 0
    · simp [negative]
    · simp [negative, Int.not_lt.mp negative]
  · by_cases negative : offset < 0
    · simp [negative]
    · simp [negative, Int.not_lt.mp negative]
  · split
    · simp only [Option.some.injEq, forall_eq', seekTarget, FitsReply, true_iff]
      omega
    all_goals simp_all

/-- A remote seek reports the true offset just when the answer holds the one it asks for. -/
theorem remote_lseek_reported (env : ClientEnv) (contents : String → Option Bytes)
    (holes : String → Nat → Bool) (server : Server) (tracked : client.fdMap[fd]? = some path)
    (routed : (route env client.addressCache path).isSome) (narrow : offset < 2 ^ 31)
    (whence : Int) :
    SeekReported env contents holes client server fd offset whence ↔
      ∀ descriptor, server.kernel[(OrderedMap.index client.fdRedirMap fd).1]? = some descriptor →
        SeekFits (server.files contents) holes descriptor offset whence := by
  rw [seekReported_iff_lt holes server tracked routed offset whence]
  cases opened : server.kernel[(OrderedMap.index client.fdRedirMap fd).1]? with
  | none => simp [lseek64, opened]
  | some descriptor =>
      rw [lseek64_lt_iff opened]
      simp only [Option.some.injEq, forall_eq']
      exact (seekFits_iff narrow).symm

end

def noHoles (_ : String) (_ : Nat) : Bool := false

theorem remote_lseek_reported_oneFile : ∃ client server,
    openRound twoServers oneFile 0 (Client.initial, Server.initial) "/d/f" readOnly 3 5 =
      some (client, server) ∧
    SeekReported twoServers oneFile noHoles client server 3 2 2 := by
  obtain ⟨⟨client, server⟩, shared, opened, whole, paired⟩ := openRound_oneFile
  refine ⟨client, server, opened, ?_⟩
  refine (remote_lseek_reported twoServers oneFile noHoles server paired.tracked paired.routed
    (by decide) 2).mpr ?_
  intro descriptor found
  rw [OrderedMap.index_of_some paired.redirected, paired.served, Option.some.injEq] at found
  subst descriptor
  simp only [SeekFits, FitsReply, fileSize, paired.stored, whole]
  decide

theorem remote_lseek_wraps : ∃ client server,
    openRound twoServers oneFile 0 (Client.initial, Server.initial) "/d/f" readOnly 3 5 =
      some (client, server) ∧
    (lseek64 (server.files oneFile) noHoles server.kernel
      (OrderedMap.index client.fdRedirMap 3).1 2147483647 2).1 = 2147483650 ∧
    (remoteLseek twoServers oneFile noHoles (client, server) 3 2147483647 2).map Prod.fst =
      some (-2147483646) ∧
    ¬ SeekReported twoServers oneFile noHoles client server 3 2147483647 2 := by
  obtain ⟨⟨client, server⟩, shared, opened, _, _⟩ := openRound_oneFile
  have reached : (openRound twoServers oneFile 0 (Client.initial, Server.initial) "/d/f" readOnly
      3 5).map (fun state =>
        ((lseek64 (state.2.files oneFile) noHoles state.2.kernel
          (OrderedMap.index state.1.fdRedirMap 3).1 2147483647 2).1,
        (remoteLseek twoServers oneFile noHoles state 3 2147483647 2).map Prod.fst)) =
      some (2147483650, some (-2147483646)) := by decide
  rw [opened, Option.map_some, Option.some.injEq, Prod.mk.injEq] at reached
  refine ⟨client, server, opened, reached.1, reached.2, ?_⟩
  rintro ⟨next, returned⟩
  simp [returned, reached.1] at reached

end HvacCache
