import HvacCache.Library.Posix

/-! A server process: the RPC handlers of `hvac_comm.cpp`, run one at a time by the
Mercury progress thread, and the data mover thread of `hvac_data_mover.cpp`. The two
threads interleave at every access to state they share. An action carries what the
kernel or the network decides; `none` means that the action is not enabled. -/

namespace HvacCache

open Posix

inductive Callback
  | openCb (localFd : Int)
  | readCb
deriving DecidableEq, Repr

structure Handle where
  client : Nat
  callback : Callback
deriving DecidableEq, Repr

inductive Request
  | openRpc (handle : Handle) (path : String)
  | readRpc (handle : Handle) (inputVal accessfd offset : Int)
  | closeRpc (fd : Int)
deriving DecidableEq, Repr

/-- `pushed` is the bulk data that reaches the origin's buffer before the response. -/
inductive Response
  | openOut (handle : Handle) (retStatus : Int)
  | rpcOut (handle : Handle) (ret : Int) (pushed : Bytes)
deriving DecidableEq, Repr

inductive HandlerPc
  | idle
  | openRpc (handle : Handle) (path : String)
  | openRedirected (handle : Handle) (path redirPath : String)
  | readRpc (handle : Handle) (inputVal accessfd offset : Int)
  | closeRpc (fd : Int)
  | closeLock (fd : Int)
  | closeSignal (fd : Int)
  | closePush (fd : Int)
  | closeUnlock (fd : Int)
  | closeErase (fd : Int)
  | aborted
deriving DecidableEq, Repr

/-- `waiting` records whether a signal has arrived since the mover blocked, and
`copying` whether `mkdtemp` made the directory of the target. -/
inductive MoverPc
  | loopTop
  | locked
  | waiting (signalled : Bool)
  | draining
  | copyLoop
  | copying (filename : String) (made : Bool)
  | writing (filename : String)
  | popping
deriving DecidableEq, Repr

inductive ServerThread
  | progress
  | mover
deriving DecidableEq, Repr

/-- What has happened so far; no step reads it. -/
structure ServerLog where
  pushed : List String
  handled : List String
  copies : List (String × String)

structure Server where
  kernel : Table
  fdToPath : OrderedMap Int String
  pathCacheMap : OrderedMap String String
  dataQueue : List String
  dataMutex : Option ServerThread
  handler : HandlerPc
  mover : MoverPc
  localList : List String
  nvme : OrderedMap String Bytes
  dirs : List String
  log : ServerLog

def Server.initial : Server := {
  kernel := ∅
  fdToPath := ∅
  pathCacheMap := ∅
  dataQueue := []
  dataMutex := none
  handler := .idle
  mover := .loopTop
  localList := []
  nvme := ∅
  dirs := []
  log := { pushed := [], handled := [], copies := [] }
}

def Server.files (contents : String → Option Bytes) (server : Server) (path : String) :
    Option Bytes :=
  match server.nvme[path]? with
  | some bytes => some bytes
  | none => contents path

inductive ServerAction
  | accept (request : Request)
  | redirect
  | openFile (fd : Int)
  | readFile (failure : Bool)
  | closeFd
  | lockQueue
  | signalMover
  | pushPath
  | unlockQueue
  | erasePath
  | moverLock
  | moverWait
  | moverWake
  | moverDrain
  | moverRest
  | moverMakeDir (dirpath : String) (made : Bool)
  | moverCreate
  | moverWrite (count : Nat)
  | moverCopied
  | moverThrow
  | moverPop
deriving DecidableEq, Repr

/-! The handlers. -/

def acceptRequest (server : Server) (request : Request) : Option Server :=
  match server.handler, request with
  | .idle, .openRpc handle path => some { server with handler := .openRpc handle path }
  | .idle, .readRpc handle inputVal accessfd offset =>
      some { server with handler := .readRpc handle inputVal accessfd offset }
  | .idle, .closeRpc fd => some { server with handler := .closeRpc fd }
  | _, _ => none

def redirectStep (server : Server) : Option Server :=
  match server.handler with
  | .openRpc handle path =>
      let redirPath := server.pathCacheMap[path]?.getD path
      some { server with handler := .openRedirected handle path redirPath }
  | _ => none

/-- `open(redir_path, O_RDONLY)` returned `fd`, which is `-1` or a number not in use. -/
def openFileStep (contents : String → Option Bytes) (server : Server) (fd : Int) :
    Option (Server × Response) :=
  match server.handler with
  | .openRedirected handle path redirPath =>
      if fd = -1 ∨ (Unused server.kernel fd ∧ (server.files contents redirPath).isSome) then
        some ({ server with
          kernel := if fd = -1 then server.kernel
            else server.kernel.insert fd { file := redirPath, mode := .readOnly, position := 0 }
          fdToPath := server.fdToPath.insert fd path
          handler := .idle },
          .openOut handle fd)
      else none
  | _ => none

/-- The read or pread of `hvac_rpc_handler`, where `failure` is an error of the call itself. -/
def handlerRead (contents : String → Option Bytes) (server : Server) (failure : Bool)
    (accessfd : Int) (size : Nat) (offset : Int) : ReadResult × Table :=
  if failure then (failed, server.kernel)
  else if offset = -1 then read (server.files contents) server.kernel accessfd size
  else (pread (server.files contents) server.kernel accessfd size offset, server.kernel)

/-- `hvac_rpc_handler` and its bulk callback. A negative `input_val` is an allocation
that fails, and a transfer longer than the registered buffer is refused by Mercury;
both end in a failed assertion. -/
def readFileStep (contents : String → Option Bytes) (server : Server) (failure : Bool) :
    Option (Server × Option Response) :=
  match server.handler with
  | .readRpc handle inputVal accessfd offset =>
      if inputVal < 0 then some ({ server with handler := .aborted }, none)
      else
        let outcome := handlerRead contents server failure accessfd (uint64 inputVal) offset
        let size := uint64 outcome.1.ret
        if size ≤ uint64 inputVal then
          some ({ server with kernel := outcome.2, handler := .idle },
            some (.rpcOut handle (int32 size) outcome.1.data))
        else some ({ server with kernel := outcome.2, handler := .aborted }, none)
  | _ => none

/-- `close(in.fd)` with its assertion, then the test whether the path is cached. -/
def closeFdStep (server : Server) : Option Server :=
  match server.handler with
  | .closeRpc fd =>
      let outcome := close server.kernel fd
      if outcome.1 = 0 then
        let path := OrderedMap.index server.fdToPath fd
        some { server with
          kernel := outcome.2
          fdToPath := path.2
          handler := if (server.pathCacheMap[path.1]?).isNone then .closeLock fd
            else .closeErase fd }
      else some { server with handler := .aborted }
  | _ => none

def lockQueueStep (server : Server) : Option Server :=
  match server.handler, server.dataMutex with
  | .closeLock fd, none =>
      some { server with handler := .closeSignal fd, dataMutex := some .progress }
  | _, _ => none

/-- A signal is lost unless the mover is blocked in `pthread_cond_wait`. -/
def signalMoverStep (server : Server) : Option Server :=
  match server.handler with
  | .closeSignal fd =>
      some { server with
        handler := .closePush fd
        mover := match server.mover with
          | .waiting _ => .waiting true
          | pc => pc }
  | _ => none

def pushPathStep (server : Server) : Option Server :=
  match server.handler with
  | .closePush fd =>
      let path := OrderedMap.index server.fdToPath fd
      some { server with
        handler := .closeUnlock fd
        fdToPath := path.2
        dataQueue := server.dataQueue ++ [path.1]
        log := { server.log with pushed := server.log.pushed ++ [path.1] } }
  | _ => none

def unlockQueueStep (server : Server) : Option Server :=
  match server.handler with
  | .closeUnlock fd => some { server with handler := .closeErase fd, dataMutex := none }
  | _ => none

def erasePathStep (server : Server) : Option Server :=
  match server.handler with
  | .closeErase fd => some { server with handler := .idle, fdToPath := server.fdToPath.erase fd }
  | _ => none

/-! The data mover. -/

def fileName (path : String) : String :=
  String.ofList (path.toList.reverse.takeWhile (· ≠ '/')).reverse

def copyTarget (dirpath path : String) : String := dirpath ++ "/" ++ fileName path

def moverLockStep (server : Server) : Option Server :=
  match server.mover, server.dataMutex with
  | .loopTop, none => some { server with mover := .locked, dataMutex := some .mover }
  | _, _ => none

def moverWaitStep (server : Server) : Option Server :=
  match server.mover with
  | .locked => some { server with mover := .waiting false, dataMutex := none }
  | _ => none

/-- The return from `pthread_cond_wait`, signalled or spurious, once the mutex is free. -/
def moverWakeStep (server : Server) : Option Server :=
  match server.mover, server.dataMutex with
  | .waiting _, none => some { server with mover := .draining, dataMutex := some .mover }
  | _, _ => none

def moverDrainStep (server : Server) : Option Server :=
  match server.mover, server.dataQueue with
  | .draining, path :: rest =>
      some { server with dataQueue := rest, localList := server.localList ++ [path] }
  | .draining, [] => some { server with mover := .copyLoop, dataMutex := none }
  | _, _ => none

def moverRestStep (server : Server) : Option Server :=
  match server.mover, server.localList with
  | .copyLoop, [] => some { server with mover := .loopTop }
  | _, _ => none

/-- `mkdtemp` makes a directory that did not exist, so neither did the target in it.
When it fails the mover goes on with the name it left. -/
def moverMakeDirStep (contents : String → Option Bytes) (server : Server) (dirpath : String)
    (made : Bool) : Option Server :=
  match server.mover, server.localList with
  | .copyLoop, path :: _ =>
      if made then
        if dirpath ∉ server.dirs ∧ contents (copyTarget dirpath path) = none then
          some { server with
            mover := .copying (copyTarget dirpath path) true
            dirs := dirpath :: server.dirs }
        else none
      else some { server with mover := .copying (copyTarget dirpath path) false }
  | _, _ => none

/-- `fs::copy` creates the target: it needs the directory, the source, and no old target. -/
def moverCreateStep (contents : String → Option Bytes) (server : Server) : Option Server :=
  match server.mover, server.localList with
  | .copying filename true, path :: _ =>
      if (contents path).isSome ∧ server.nvme[filename]? = none then
        some { server with mover := .writing filename, nvme := server.nvme.insert filename [] }
      else none
  | _, _ => none

def moverWriteStep (contents : String → Option Bytes) (server : Server) (count : Nat) :
    Option Server :=
  match server.mover, server.localList with
  | .writing filename, path :: _ =>
      match contents path, server.nvme[filename]? with
      | some bytes, some written =>
          some { server with
            nvme := server.nvme.insert filename (bytes.take (written.length + count)) }
      | _, _ => none
  | _, _ => none

def moverCopiedStep (contents : String → Option Bytes) (server : Server) : Option Server :=
  match server.mover, server.localList with
  | .writing filename, path :: _ =>
      if (contents path).isSome ∧ server.nvme[filename]? = contents path then
        some { server with
          mover := .popping
          pathCacheMap := server.pathCacheMap.insert path filename
          log := { server.log with copies := server.log.copies ++ [(path, filename)] } }
      else none
  | _, _ => none

def moverThrowStep (server : Server) : Option Server :=
  match server.mover with
  | .copying _ _ => some { server with mover := .popping }
  | .writing _ => some { server with mover := .popping }
  | _ => none

def moverPopStep (server : Server) : Option Server :=
  match server.mover, server.localList with
  | .popping, path :: rest =>
      some { server with
        mover := .copyLoop
        localList := rest
        log := { server.log with handled := server.log.handled ++ [path] } }
  | _, _ => none

def silent (outcome : Option Server) : Option (Server × Option Response) :=
  outcome.map fun server => (server, none)

def threadAct (contents : String → Option Bytes) (server : Server) :
    ServerAction → Option (Server × Option Response)
  | .accept request => silent (acceptRequest server request)
  | .redirect => silent (redirectStep server)
  | .openFile fd =>
      (openFileStep contents server fd).map fun outcome => (outcome.1, some outcome.2)
  | .readFile failure => readFileStep contents server failure
  | .closeFd => silent (closeFdStep server)
  | .lockQueue => silent (lockQueueStep server)
  | .signalMover => silent (signalMoverStep server)
  | .pushPath => silent (pushPathStep server)
  | .unlockQueue => silent (unlockQueueStep server)
  | .erasePath => silent (erasePathStep server)
  | .moverLock => silent (moverLockStep server)
  | .moverWait => silent (moverWaitStep server)
  | .moverWake => silent (moverWakeStep server)
  | .moverDrain => silent (moverDrainStep server)
  | .moverRest => silent (moverRestStep server)
  | .moverMakeDir dirpath made => silent (moverMakeDirStep contents server dirpath made)
  | .moverCreate => silent (moverCreateStep contents server)
  | .moverWrite count => silent (moverWriteStep contents server count)
  | .moverCopied => silent (moverCopiedStep contents server)
  | .moverThrow => silent (moverThrowStep server)
  | .moverPop => silent (moverPopStep server)

/-- A failed assertion has ended the process, with all of its threads. -/
def serverAct (contents : String → Option Bytes) (server : Server) (action : ServerAction) :
    Option (Server × Option Response) :=
  if server.handler = .aborted then none else threadAct contents server action

def serverStep (contents : String → Option Bytes) (server : Server) (action : ServerAction) :
    Option Server :=
  (serverAct contents server action).map Prod.fst

end HvacCache
