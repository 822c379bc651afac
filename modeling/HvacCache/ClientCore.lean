import HvacCache.RpcBlockCore
import HvacCache.ServerCore

/-! A client process with one application thread: the wrappers of `wrappers.c`, the
descriptor maps of `hvac_client.cpp` and the requests of `hvac_comm_client.cpp`. A
call runs up to its block function in one step, because nothing else touches the
process until a response arrives. -/

namespace HvacCache

open Posix

/-- What the process finds around it. `resolve` is the file a path leads the kernel to,
`canonical` is `std::filesystem::canonical`, which may throw, and `addressFile` holds
the lines of `.ports.cfg.<jobid>`. -/
structure ClientEnv where
  resolve : String → String
  canonical : String → Option String
  canonical_resolves : ∀ path file, canonical path = some file → file = resolve path
  dataDir : Option String
  currentPath : String
  serverCount : Nat
  hash : String → Nat
  addressFile : List (Int × String)

structure OpenFlags where
  access : AccessMode
  append : Bool
deriving DecidableEq, Repr

inductive ClientPc
  | idle
  | openBlock (file : String) (mode : AccessMode) (fd : Int)
  | readBlock (fd : Int) (count : Nat)
  | preadBlock (fd : Int) (count : Nat) (offset : Int)
  | aborted
deriving DecidableEq, Repr

/-- `buffer` is what the last bulk transfer left in the buffer of the caller, and
`trace` what the application has seen; no step reads it. -/
structure Client where
  kernel : Table
  fdMap : OrderedMap Int String
  fdRedirMap : OrderedMap Int Int
  addressCache : OrderedMap Int String
  completion : Completion
  buffer : Bytes
  pc : ClientPc
  trace : List Event

def Client.initial : Client := {
  kernel := ∅
  fdMap := ∅
  fdRedirMap := ∅
  addressCache := ∅
  completion := .initial
  buffer := []
  pc := .idle
  trace := []
}

/-- `fd` is the result of the `__real_open` inside the call. -/
inductive ClientAction
  | openCall (pathname : String) (flags : OpenFlags) (fd : Int)
  | readCall (fd : Int) (count : Nat)
  | preadCall (fd : Int) (count : Nat) (offset : Int)
  | closeCall (fd : Int)
  | wake
deriving DecidableEq, Repr

/-! The choice of the files to track. -/

def parentPath (path : String) : String :=
  let front := (path.toList.reverse.dropWhile (· ≠ '/')).dropWhile (· = '/')
  if front = [] ∧ path.toList.head? = some '/' then "/" else String.ofList front.reverse

/-- Whether a file lies where the job keeps its data; `ppath.find(test)` looks for the
directory anywhere in the name. -/
def inDataDir (env : ClientEnv) (file : String) : Bool :=
  match env.dataDir with
  | some dir =>
      match env.canonical dir with
      | some test => decide (test.toList <:+: (parentPath file).toList)
      | none => false
  | none => decide (parentPath file = env.currentPath)

/-- The tests of `hvac_track_file`, with the path under which the file is tracked. -/
def trackedPath (env : ClientEnv) (pathname : String) (flags : OpenFlags) : Option String :=
  if ".ports.cfg.".toList <:+: pathname.toList then none
  else if flags.access = .writeOnly then none
  else if flags.append then none
  else
    match env.canonical pathname with
    | some file => if inDataDir env file then some file else none
    | none => none

/-! The requests. -/

/-- `hash % g_hvac_server_count` as an `int`; the division traps when the count is zero. -/
def host (env : ClientEnv) (path : String) : Option Int :=
  if env.serverCount = 0 then none
  else some (int32 (env.hash path % env.serverCount : Nat))

def scanAddr (env : ClientEnv) (rank : Int) : Option String :=
  (env.addressFile.find? fun line => line.1 = rank).map Prod.snd

def lookupAddr (env : ClientEnv) (cache : OrderedMap Int String) (rank : Int) :
    Option (String × OrderedMap Int String) :=
  match cache[rank]? with
  | some address => some (address, cache)
  | none =>
      match scanAddr env rank with
      | some address => some (address, cache.insert rank address)
      | none => none

/-- The server a request about `path` goes to. Without one the process dies. -/
def route (env : ClientEnv) (cache : OrderedMap Int String) (path : String) :
    Option (String × OrderedMap Int String) :=
  match host env path with
  | none => none
  | some rank => lookupAddr env cache rank

abbrev Outgoing := Option (String × Request)

def Client.abort (client : Client) : Client :=
  { Client.initial with pc := .aborted, trace := client.trace }

def genOpenRpc (env : ClientEnv) (self : Nat) (client : Client) (path : String) (fd : Int)
    (pc : ClientPc) : Client × Outgoing :=
  match route env client.addressCache path with
  | none => (client.abort, none)
  | some (address, cache) =>
      ({ client with
          addressCache := cache
          completion := client.completion.resetDone
          pc },
        some (address, .openRpc { client := self, callback := .openCb fd } path))

def genReadRpc (env : ClientEnv) (self : Nat) (client : Client) (path : String) (fd : Int)
    (count : Nat) (offset : Int) (pc : ClientPc) : Client × Outgoing :=
  match route env client.addressCache path with
  | none => (client.abort, none)
  | some (address, cache) =>
      let remote := OrderedMap.index client.fdRedirMap fd
      ({ client with
          addressCache := cache
          completion := client.completion.resetDone.resetReadRet
          fdRedirMap := remote.2
          pc },
        some (address, .readRpc { client := self, callback := .readCb } (int32 count) remote.1
          offset))

def genCloseRpc (env : ClientEnv) (client : Client) (path : String) (fd : Int) :
    Client × Outgoing :=
  match route env client.addressCache path with
  | none => (client.abort, none)
  | some (address, cache) =>
      let remote := OrderedMap.index client.fdRedirMap fd
      ({ client with
          addressCache := cache
          fdRedirMap := remote.2.erase fd
          fdMap := client.fdMap.erase fd },
        some (address, .closeRpc remote.1))

/-! The wrappers. -/

def Client.finish (client : Client) (event : Event) : Client :=
  { client with pc := .idle, trace := client.trace ++ [event] }

def openCall (env : ClientEnv) (contents : String → Option Bytes) (self : Nat) (client : Client)
    (pathname : String) (flags : OpenFlags) (fd : Int) : Option (Client × Outgoing) :=
  if fd = -1 then some (client.finish .openFailed, none)
  else
    let file := env.resolve pathname
    if Unused client.kernel fd ∧ (contents file).isSome then
      let opened := { client with
        kernel := client.kernel.insert fd { file, mode := flags.access, position := 0 } }
      match trackedPath env pathname flags with
      | none => some (opened.finish (.opened file flags.access fd), none)
      | some path =>
          some (genOpenRpc env self { opened with fdMap := opened.fdMap.insert fd path } path fd
            (.openBlock file flags.access fd))
    else none

/-- `__real_read`, whose result the wrapper keeps in an `int`. -/
def realRead (contents : String → Option Bytes) (client : Client) (fd : Int) (count : Nat) :
    Client :=
  let outcome := read contents client.kernel fd count
  Client.finish { client with kernel := outcome.2 }
    (.read fd count { outcome.1 with ret := int32 outcome.1.ret })

def realPread (contents : String → Option Bytes) (client : Client) (fd : Int) (count : Nat)
    (offset : Int) : Client :=
  client.finish (.pread fd count offset (pread contents client.kernel fd count offset))

def readCall (env : ClientEnv) (contents : String → Option Bytes) (self : Nat) (client : Client)
    (fd : Int) (count : Nat) : Client × Outgoing :=
  match client.fdMap[fd]? with
  | some path => genReadRpc env self client path fd count (-1) (.readBlock fd count)
  | none => (realRead contents client fd count, none)

/-- A remote descriptor 0 counts as none. -/
def preadCall (env : ClientEnv) (contents : String → Option Bytes) (self : Nat) (client : Client)
    (fd : Int) (count : Nat) (offset : Int) : Client × Outgoing :=
  match client.fdMap[fd]? with
  | some path =>
      let remote := OrderedMap.index client.fdRedirMap fd
      let indexed := { client with fdRedirMap := remote.2 }
      if remote.1 ≠ 0 then
        genReadRpc env self indexed path fd count offset (.preadBlock fd count offset)
      else (realPread contents indexed fd count offset, none)
  | none => (realPread contents client fd count offset, none)

def realClose (client : Client) (fd : Int) : Client :=
  let outcome := close client.kernel fd
  Client.finish { client with kernel := outcome.2 } (.closed fd outcome.1)

def closeCall (env : ClientEnv) (client : Client) (fd : Int) : Client × Outgoing :=
  match client.fdMap[fd]? with
  | some path =>
      match genCloseRpc env client path fd with
      | (aborted, none) => (aborted, none)
      | (removed, some request) => (realClose removed fd, some request)
  | none => (realClose client fd, none)

/-- The block function finds `done` set and the wrapper goes on; `-1` makes it fall back
on the local descriptor. -/
def wakeStep (contents : String → Option Bytes) (client : Client) : Option Client :=
  if client.completion.ready then
    match client.pc with
    | .openBlock file mode fd => some (client.finish (.opened file mode fd))
    | .readBlock fd count =>
        let ret := int32 client.completion.readRet
        if ret = -1 then some (realRead contents client fd count)
        else some (client.finish (.read fd count { ret, data := client.buffer }))
    | .preadBlock fd count offset =>
        let ret := client.completion.readRet
        if ret = -1 then some (realPread contents client fd count offset)
        else some (client.finish (.pread fd count offset { ret, data := client.buffer }))
    | _ => none
  else none

def clientAct (env : ClientEnv) (contents : String → Option Bytes) (self : Nat) (client : Client)
    (action : ClientAction) : Option (Client × Outgoing) :=
  match client.pc, action with
  | .idle, .openCall pathname flags fd => openCall env contents self client pathname flags fd
  | .idle, .readCall fd count => some (readCall env contents self client fd count)
  | .idle, .preadCall fd count offset => some (preadCall env contents self client fd count offset)
  | .idle, .closeCall fd => some (closeCall env client fd)
  | _, .wake => (wakeStep contents client).map fun woken => (woken, none)
  | _, _ => none

/-- `hvac_open_cb` and `hvac_read_cb`, run by the progress thread. The bulk data is in
the buffer before the response arrives. -/
def receive (client : Client) : Response → Option Client
  | .openOut { callback := .openCb localFd, .. } retStatus =>
      some { client with
        fdRedirMap := client.fdRedirMap.insert localFd retStatus
        completion := client.completion.openCb }
  | .rpcOut { callback := .readCb, .. } ret pushed =>
      some { client with
        buffer := pushed
        completion := client.completion.readCb ret }
  | _ => none

end HvacCache
