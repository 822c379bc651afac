import HvacCache.BulkTransfer
import HvacCache.ClientCore

/-! One call of the read or the pread wrapper with the server of its file. The count goes
to the server as an `int32_t`, and the offset tells it which of the two calls it serves. -/

namespace HvacCache

open Posix Std

/-- A call of the read wrapper, or of the pread wrapper at an offset. -/
inductive ReadKind
  | sequential
  | positional (offset : Int)
deriving DecidableEq, Repr

namespace ReadKind

def action (fd : Int) (count : Nat) : ReadKind → ClientAction
  | sequential => .readCall fd count
  | positional offset => .preadCall fd count offset

def block (fd : Int) (count : Nat) : ReadKind → ClientPc
  | sequential => .readBlock fd count
  | positional offset => .preadBlock fd count offset

def event (fd : Int) (count : Nat) (result : ReadResult) : ReadKind → Event
  | sequential => .read fd count result
  | positional offset => .pread fd count offset result

def wire : ReadKind → Int
  | sequential => -1
  | positional offset => offset

def start (position : Nat) : ReadKind → Nat
  | sequential => position
  | positional offset => offset.toNat

def table (kernel : Table) (remote : Int) (descriptor : Descriptor) (moved : Nat) :
    ReadKind → Table
  | sequential =>
      kernel.insert remote { descriptor with position := descriptor.position + moved }
  | positional _ => kernel

/-- The range of a call for `size` bytes is one that can be read. -/
def Placed (size : Nat) : ReadKind → Prop
  | sequential => size < 2 ^ 63
  | positional offset => 0 ≤ offset ∧ offset + size < 2 ^ 63

/-- The call is served by the local descriptor: a pread with the remote descriptor 0. -/
def Stays (remote : Int) : ReadKind → Prop
  | sequential => False
  | positional _ => remote = 0

end ReadKind

def serveRead (contents : String → Option Bytes) (server : Server) (failure : Bool)
    (request : Request) : Option (Server × Option Response) :=
  match serverStep contents server (.accept request) with
  | some accepted => serverAct contents accepted (.readFile failure)
  | none => none

/-- One call of a wrapper from its start to its return, with the server that gets its
request. There is no result when the server dies of a failed assertion. -/
def callRound (env : ClientEnv) (contents : String → Option Bytes) (self : Nat) (failure : Bool)
    (state : Client × Server) (action : ClientAction) : Option (Client × Server) :=
  match clientAct env contents self state.1 action with
  | some (returned, none) => some (returned, state.2)
  | some (waiting, some (_, request)) =>
      match serveRead contents state.2 failure request with
      | some (server, some response) =>
          match receive waiting response with
          | some informed => (wakeStep contents informed).map fun client => (client, server)
          | none => none
      | _ => none
  | none => none

structure TrackedFile where
  path : String
  remote : Int
  bytes : Bytes

/-- The process may call a wrapper on `fd`, and what the server has open for it, if
anything, is the same file. -/
structure Tracks (env : ClientEnv) (contents : String → Option Bytes) (fd : Int)
    (file : TrackedFile) (client : Client) (server : Server) : Prop where
  idle : client.pc = .idle
  tracked : client.fdMap[fd]? = some file.path
  routed : (route env client.addressCache file.path).isSome
  redirected : client.fdRedirMap[fd]? = some file.remote
  opened : ∃ descriptor, client.kernel[fd]? = some descriptor ∧
    readable contents descriptor = some file.bytes
  free : server.handler = .idle
  served : ∀ descriptor, server.kernel[file.remote]? = some descriptor →
    readable (server.files contents) descriptor = some file.bytes

theorem route_again {env : ClientEnv} {cache after : OrderedMap Int String} {path address : String}
    (routed : route env cache path = some (address, after)) : (route env after path).isSome := by
  unfold route at routed ⊢
  split at routed
  · simp at routed
  · rename_i rank hashed
    unfold lookupAddr at routed ⊢
    split at routed
    · rename_i cached found
      simp only [Option.some.injEq, Prod.mk.injEq] at routed
      rw [← routed.2, found]
      rfl
    · split at routed
      · simp only [Option.some.injEq, Prod.mk.injEq] at routed
        rw [← routed.2]
        simp
      · simp at routed

def Client.blocked (client : Client) (cache : OrderedMap Int String) (pc : ClientPc) : Client :=
  { client with
    addressCache := cache
    completion := client.completion.resetDone.resetReadRet
    pc }

def Client.informed (client : Client) (cache : OrderedMap Int String) (ret : Int)
    (pushed : Bytes) : Client :=
  { client with
    addressCache := cache
    completion := { done := 1, readRet := ret }
    buffer := pushed }

def Server.asked (server : Server) (self : Nat) (count : Nat) (remote : Int) (kind : ReadKind) :
    Server :=
  { server with
    handler := .readRpc { client := self, callback := .readCb } (int32 count) remote kind.wire }

section
variable {env : ClientEnv} {contents : String → Option Bytes} (self : Nat) {fd : Int}
  {file : TrackedFile} {client : Client} {server after : Server} {kind : ReadKind}

@[simp] theorem asked_handler (server : Server) (count : Nat) (remote : Int) (kind : ReadKind) :
    (server.asked self count remote kind).handler =
      .readRpc { client := self, callback := .readCb } (int32 count) remote kind.wire := rfl

theorem Tracks.called (tracks : Tracks env contents fd file client server) (count : Nat)
    (leaves : ¬ kind.Stays file.remote) : ∃ address cache,
    (route env cache file.path).isSome ∧
    clientAct env contents self client (kind.action fd count) =
      some (client.blocked cache (kind.block fd count),
        some (address, .readRpc { client := self, callback := .readCb } (int32 count) file.remote
          kind.wire)) := by
  obtain ⟨⟨address, cache⟩, routed⟩ := Option.isSome_iff_exists.mp tracks.routed
  have index := OrderedMap.index_of_some tracks.redirected
  refine ⟨address, cache, route_again routed, ?_⟩
  cases kind with
  | sequential =>
      simp only [ReadKind.action, clientAct, tracks.idle, readCall, tracks.tracked, genReadRpc,
        routed, index]
      rfl
  | positional offset =>
      have nonzero : file.remote ≠ 0 := leaves
      simp only [ReadKind.action, clientAct, tracks.idle, preadCall, tracks.tracked, index,
        if_pos nonzero, genReadRpc, routed]
      rfl

theorem Tracks.stays (tracks : Tracks env contents fd file client server) (failure : Bool)
    (count : Nat) (offset : Int) (zero : file.remote = 0) :
    callRound env contents self failure (client, server) (.preadCall fd count offset) =
      some (realPread contents client fd count offset, server) := by
  have index := OrderedMap.index_of_some tracks.redirected
  simp only [callRound, clientAct, tracks.idle, preadCall, tracks.tracked, index, zero]
  rfl

theorem serveRead_asked (contents : String → Option Bytes) (free : server.handler = .idle)
    (failure : Bool) (count : Nat) (remote : Int) (kind : ReadKind) :
    serveRead contents server failure (.readRpc { client := self, callback := .readCb }
      (int32 count) remote kind.wire) =
      readFileStep contents (server.asked self count remote kind) failure := by
  simp only [serveRead, serverStep, serverAct, threadAct, acceptRequest, free, silent,
    reduceCtorEq, if_false, Option.map_some, Server.asked]

theorem Tracks.unanswered (tracks : Tracks env contents fd file client server) (failure : Bool)
    (count : Nat) (leaves : ¬ kind.Stays file.remote)
    (stepped : readFileStep contents (server.asked self count file.remote kind) failure =
      some (after, none)) :
    callRound env contents self failure (client, server) (kind.action fd count) = none := by
  obtain ⟨address, cache, _, called⟩ := tracks.called self count leaves
  have served := serveRead_asked self contents tracks.free failure count file.remote kind
  rw [stepped] at served
  simp only [callRound, called, served]

theorem Tracks.answered (tracks : Tracks env contents fd file client server) (failure : Bool)
    (count : Nat) (leaves : ¬ kind.Stays file.remote) {ret : Int} (lower : 0 ≤ ret)
    (upper : ret < 2 ^ 31) {pushed : Bytes}
    (stepped : readFileStep contents (server.asked self count file.remote kind) failure =
      some (after, some (.rpcOut { client := self, callback := .readCb } ret pushed))) :
    ∃ cache, (route env cache file.path).isSome ∧
      callRound env contents self failure (client, server) (kind.action fd count) =
        some ((client.informed cache ret pushed).finish
          (kind.event fd count { ret, data := pushed }), after) := by
  obtain ⟨address, cache, routed, called⟩ := tracks.called self count leaves
  have served := serveRead_asked self contents tracks.free failure count file.remote kind
  rw [stepped] at served
  refine ⟨cache, routed, ?_⟩
  have ready : (client.completion.resetDone.resetReadRet.readCb ret).ready = true := rfl
  have returned : (client.completion.resetDone.resetReadRet.readCb ret).readRet = ret := rfl
  have answered : ret ≠ -1 := by omega
  cases kind with
  | sequential =>
      have narrow := int32_of_nonneg lower upper
      simp only [callRound, called, served, receive, Client.blocked, ReadKind.block, wakeStep,
        ready, returned, narrow, if_true, if_neg answered, Option.map_some]
      rfl
  | positional offset =>
      simp only [callRound, called, served, receive, Client.blocked, ReadKind.block, wakeStep,
        ready, returned, if_true, if_neg answered, Option.map_some]
      rfl

theorem Tracks.handlerRead (tracks : Tracks env contents fd file client server)
    {descriptor : Descriptor} (held : server.kernel[file.remote]? = some descriptor)
    (count : Nat) {size : Nat} (placed : kind.Placed size) :
    let data := slice file.bytes (kind.start descriptor.position) size
    handlerRead contents (server.asked self count file.remote kind) false file.remote size
        kind.wire =
      (delivered data, kind.table server.kernel file.remote descriptor data.length) := by
  have located : (server.asked self count file.remote kind).kernel[file.remote]? =
    some descriptor := held
  have visible : readable ((server.asked self count file.remote kind).files contents) descriptor =
    some file.bytes := tracks.served descriptor held
  obtain ⟨readCase, preadCase⟩ := handlerRead_of_readable located visible size
  cases kind with
  | sequential => exact readCase placed
  | positional offset => exact preadCase offset placed.1 placed.2

theorem ReadKind.Placed.wire {size : Nat} (placed : kind.Placed size) :
    HvacCache.Placed size kind.wire := by
  cases kind with
  | sequential => exact Or.inl ⟨rfl, placed⟩
  | positional offset => exact Or.inr placed

theorem Tracks.readSucceeds (tracks : Tracks env contents fd file client server)
    {descriptor : Descriptor} (held : server.kernel[file.remote]? = some descriptor) (count : Nat)
    {size : Nat} (placed : kind.Placed size) :
    ReadSucceeds contents (server.asked self count file.remote kind) false file.remote size
      kind.wire := by
  have located : (server.asked self count file.remote kind).kernel[file.remote]? =
    some descriptor := held
  have visible : readable ((server.asked self count file.remote kind).files contents) descriptor =
    some file.bytes := tracks.served descriptor held
  refine ⟨rfl, ?_, placed.wire⟩
  rw [located, Option.bind_some, visible]
  rfl

theorem Tracks.round_succeeds (tracks : Tracks env contents fd file client server) {failure : Bool}
    (count : Nat) (kind : ReadKind) (possible : 0 ≤ int32 count)
    (leaves : ¬ kind.Stays file.remote)
    (succeeds : ReadSucceeds contents (server.asked self count file.remote kind) failure
      file.remote (uint64 (int32 count)) kind.wire) :
    let outcome := HvacCache.handlerRead contents (server.asked self count file.remote kind) failure
      file.remote (uint64 (int32 count)) kind.wire
    ∃ next after, callRound env contents self failure (client, server) (kind.action fd count) =
        some (next, after) ∧ next.kernel = client.kernel ∧ after.kernel = outcome.2 ∧
      0 ≤ outcome.1.ret ∧ next.trace = client.trace ++ [kind.event fd count outcome.1] := by
  intro outcome
  obtain ⟨lower, _, bounded⟩ : 0 ≤ outcome.1.ret ∧ outcome.1.ret ≤ uint64 (int32 count) ∧
    outcome.1.ret ≤ maxTransfer := handlerRead_ret succeeds
  simp only [maxTransfer] at bounded
  have narrow : int32 outcome.1.ret = outcome.1.ret := int32_of_nonneg lower (by omega)
  obtain ⟨_, stepped⟩ :=
    readFileStep_of_succeeds (asked_handler self server count file.remote kind) possible succeeds
  rw [show int32 (HvacCache.handlerRead contents (server.asked self count file.remote kind) failure
    file.remote (uint64 (int32 count)) kind.wire).1.ret = outcome.1.ret from narrow] at stepped
  obtain ⟨cache, _, ran⟩ := tracks.answered self failure count leaves lower (by omega) stepped
  exact ⟨_, _, ran, rfl, rfl, lower, rfl⟩

theorem readFileStep_negative (contents : String → Option Bytes) (server : Server) (failure : Bool)
    {count : Nat} (remote : Int) (kind : ReadKind) (negative : int32 count < 0) : ∃ after,
    readFileStep contents (server.asked self count remote kind) failure = some (after, none) := by
  simp only [readFileStep, asked_handler, if_pos negative]
  exact ⟨_, rfl⟩

theorem readFileStep_failed (kind : ReadKind) {failure : Bool} {count : Nat} {remote : Int}
    (possible : 0 ≤ int32 count)
    (fails : ¬ ReadSucceeds contents (server.asked self count remote kind) failure remote
      (uint64 (int32 count)) kind.wire) : ∃ after,
    readFileStep contents (server.asked self count remote kind) failure = some (after, none) := by
  have upper := int32_lt count
  have size : uint64 (int32 count) = (int32 count).toNat := uint64_of_nonneg possible (by omega)
  have small : uint64 (int32 count) < 2 ^ 64 - 1 := by omega
  have overrun := mt (readSucceeds_of_fits small) fails
  simp only [readFileStep, asked_handler, if_neg (Int.not_lt.mpr possible), if_neg overrun]
  exact ⟨_, rfl⟩

end

end HvacCache
