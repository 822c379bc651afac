import HvacCache.ServerCore

/-! What each action can do to a server. The invariants of the mover, of the
redirection map and of the descriptors are all read off this one inversion. -/

namespace HvacCache

open Posix

inductive ServerEffect (contents : String → Option Bytes) (server : Server) :
    ServerAction → Server → Option Response → Prop
  | acceptOpen (handle : Handle) (path : String) (idle : server.handler = .idle) :
      ServerEffect contents server (.accept (.openRpc handle path))
        { server with handler := .openRpc handle path } none
  | acceptRead (handle : Handle) (inputVal accessfd offset : Int) (idle : server.handler = .idle) :
      ServerEffect contents server (.accept (.readRpc handle inputVal accessfd offset))
        { server with handler := .readRpc handle inputVal accessfd offset } none
  | acceptClose (fd : Int) (idle : server.handler = .idle) :
      ServerEffect contents server (.accept (.closeRpc fd))
        { server with handler := .closeRpc fd } none
  | redirect (handle : Handle) (path : String) (opening : server.handler = .openRpc handle path) :
      ServerEffect contents server .redirect
        { server with
          handler := .openRedirected handle path (server.pathCacheMap[path]?.getD path) } none
  | openFailed (handle : Handle) (path redirPath : String)
      (opening : server.handler = .openRedirected handle path redirPath) :
      ServerEffect contents server (.openFile (-1))
        { server with
          fdToPath := server.fdToPath.insert (-1) path
          handler := .idle }
        (some (.openOut handle (-1)))
  | opened (handle : Handle) (path redirPath : String) (fd : Int)
      (opening : server.handler = .openRedirected handle path redirPath)
      (unused : Unused server.kernel fd) (present : (server.files contents redirPath).isSome) :
      ServerEffect contents server (.openFile fd)
        { server with
          kernel := server.kernel.insert fd { file := redirPath, mode := .readOnly, position := 0 }
          fdToPath := server.fdToPath.insert fd path
          handler := .idle }
        (some (.openOut handle fd))
  | readUnallocated (handle : Handle) (inputVal accessfd offset : Int) (failure : Bool)
      (reading : server.handler = .readRpc handle inputVal accessfd offset)
      (negative : inputVal < 0) :
      ServerEffect contents server (.readFile failure) { server with handler := .aborted } none
  | readDone (handle : Handle) (inputVal accessfd offset : Int) (failure : Bool)
      (outcome : ReadResult × Table)
      (reading : server.handler = .readRpc handle inputVal accessfd offset)
      (allocated : 0 ≤ inputVal)
      (result : handlerRead contents server failure accessfd (uint64 inputVal) offset = outcome)
      (fits : uint64 outcome.1.ret ≤ uint64 inputVal) :
      ServerEffect contents server (.readFile failure)
        { server with kernel := outcome.2, handler := .idle }
        (some (.rpcOut handle (int32 (uint64 outcome.1.ret)) outcome.1.data))
  | readOverrun (handle : Handle) (inputVal accessfd offset : Int) (failure : Bool)
      (outcome : ReadResult × Table)
      (reading : server.handler = .readRpc handle inputVal accessfd offset)
      (allocated : 0 ≤ inputVal)
      (result : handlerRead contents server failure accessfd (uint64 inputVal) offset = outcome)
      (overrun : ¬uint64 outcome.1.ret ≤ uint64 inputVal) :
      ServerEffect contents server (.readFile failure)
        { server with kernel := outcome.2, handler := .aborted } none
  | closed (fd : Int) (descriptor : Descriptor) (closing : server.handler = .closeRpc fd)
      (found : server.kernel[fd]? = some descriptor) :
      ServerEffect contents server .closeFd
        { server with
          kernel := server.kernel.erase fd
          fdToPath := (OrderedMap.index server.fdToPath fd).2
          handler :=
            if (server.pathCacheMap[(OrderedMap.index server.fdToPath fd).1]?).isNone then
              .closeLock fd
            else .closeErase fd } none
  | closeFailed (fd : Int) (closing : server.handler = .closeRpc fd)
      (missing : server.kernel[fd]? = none) :
      ServerEffect contents server .closeFd { server with handler := .aborted } none
  | lockQueue (fd : Int) (locking : server.handler = .closeLock fd)
      (free : server.dataMutex = none) :
      ServerEffect contents server .lockQueue
        { server with handler := .closeSignal fd, dataMutex := some .progress } none
  | signalled (fd : Int) (before : Bool) (signalling : server.handler = .closeSignal fd)
      (waiting : server.mover = .waiting before) :
      ServerEffect contents server .signalMover
        { server with handler := .closePush fd, mover := .waiting true } none
  | signalLost (fd : Int) (signalling : server.handler = .closeSignal fd)
      (awake : ∀ before, server.mover ≠ .waiting before) :
      ServerEffect contents server .signalMover { server with handler := .closePush fd } none
  | pushPath (fd : Int) (pushing : server.handler = .closePush fd) :
      ServerEffect contents server .pushPath
        { server with
          handler := .closeUnlock fd
          fdToPath := (OrderedMap.index server.fdToPath fd).2
          dataQueue := server.dataQueue ++ [(OrderedMap.index server.fdToPath fd).1]
          log := { server.log with
            pushed := server.log.pushed ++ [(OrderedMap.index server.fdToPath fd).1] } } none
  | unlockQueue (fd : Int) (unlocking : server.handler = .closeUnlock fd) :
      ServerEffect contents server .unlockQueue
        { server with handler := .closeErase fd, dataMutex := none } none
  | erasePath (fd : Int) (erasing : server.handler = .closeErase fd) :
      ServerEffect contents server .erasePath
        { server with handler := .idle, fdToPath := server.fdToPath.erase fd } none
  | moverLock (top : server.mover = .loopTop) (free : server.dataMutex = none) :
      ServerEffect contents server .moverLock
        { server with mover := .locked, dataMutex := some .mover } none
  | moverWait (locked : server.mover = .locked) :
      ServerEffect contents server .moverWait
        { server with mover := .waiting false, dataMutex := none } none
  | moverWake (signalled : Bool) (waiting : server.mover = .waiting signalled)
      (free : server.dataMutex = none) :
      ServerEffect contents server .moverWake
        { server with mover := .draining, dataMutex := some .mover } none
  | drained (path : String) (rest : List String) (draining : server.mover = .draining)
      (queued : server.dataQueue = path :: rest) :
      ServerEffect contents server .moverDrain
        { server with dataQueue := rest, localList := server.localList ++ [path] } none
  | drainEnd (draining : server.mover = .draining) (empty : server.dataQueue = []) :
      ServerEffect contents server .moverDrain
        { server with mover := .copyLoop, dataMutex := none } none
  | moverRest (looping : server.mover = .copyLoop) (empty : server.localList = []) :
      ServerEffect contents server .moverRest { server with mover := .loopTop } none
  | madeDir (dirpath path : String) (rest : List String) (looping : server.mover = .copyLoop)
      (front : server.localList = path :: rest) (newDir : dirpath ∉ server.dirs)
      (absent : contents (copyTarget dirpath path) = none) :
      ServerEffect contents server (.moverMakeDir dirpath true)
        { server with
          mover := .copying (copyTarget dirpath path) true
          dirs := dirpath :: server.dirs } none
  | noDir (dirpath path : String) (rest : List String) (looping : server.mover = .copyLoop)
      (front : server.localList = path :: rest) :
      ServerEffect contents server (.moverMakeDir dirpath false)
        { server with mover := .copying (copyTarget dirpath path) false } none
  | created (filename path : String) (rest : List String)
      (copying : server.mover = .copying filename true) (front : server.localList = path :: rest)
      (source : (contents path).isSome) (absent : server.nvme[filename]? = none) :
      ServerEffect contents server .moverCreate
        { server with mover := .writing filename, nvme := server.nvme.insert filename [] } none
  | wrote (filename path : String) (rest : List String) (count : Nat) (bytes written : Bytes)
      (writing : server.mover = .writing filename) (front : server.localList = path :: rest)
      (source : contents path = some bytes) (target : server.nvme[filename]? = some written) :
      ServerEffect contents server (.moverWrite count)
        { server with
          nvme := server.nvme.insert filename (bytes.take (written.length + count)) } none
  | copied (filename path : String) (rest : List String) (bytes : Bytes)
      (writing : server.mover = .writing filename) (front : server.localList = path :: rest)
      (source : contents path = some bytes) (complete : server.nvme[filename]? = some bytes) :
      ServerEffect contents server .moverCopied
        { server with
          mover := .popping
          pathCacheMap := server.pathCacheMap.insert path filename
          log := { server.log with copies := server.log.copies ++ [(path, filename)] } } none
  | threw (filename : String)
      (inCopy : (∃ made, server.mover = .copying filename made) ∨
        server.mover = .writing filename) :
      ServerEffect contents server .moverThrow { server with mover := .popping } none
  | popped (path : String) (rest : List String) (popping : server.mover = .popping)
      (front : server.localList = path :: rest) :
      ServerEffect contents server .moverPop
        { server with
          mover := .copyLoop
          localList := rest
          log := { server.log with handled := server.log.handled ++ [path] } } none

theorem silent_eq_some {outcome : Option Server} {next : Server} {response : Option Response} :
    silent outcome = some (next, response) ↔ outcome = some next ∧ response = none := by
  cases outcome with
  | none => simp [silent]
  | some server => simp [silent, eq_comm]

section
variable {contents : String → Option Bytes} {server next : Server} {response : Option Response}

theorem acceptRequest_effect {request : Request}
    (accepted : acceptRequest server request = some next) :
    ServerEffect contents server (.accept request) next none := by
  unfold acceptRequest at accepted
  split at accepted
  · rename_i idle
    simp only [Option.some.injEq] at accepted
    exact accepted ▸ .acceptOpen _ _ idle
  · rename_i idle
    simp only [Option.some.injEq] at accepted
    exact accepted ▸ .acceptRead _ _ _ _ idle
  · rename_i idle
    simp only [Option.some.injEq] at accepted
    exact accepted ▸ .acceptClose _ idle
  · simp at accepted

theorem redirectStep_effect (stepped : redirectStep server = some next) :
    ServerEffect contents server .redirect next none := by
  unfold redirectStep at stepped
  split at stepped
  · rename_i opening
    simp only [Option.some.injEq] at stepped
    exact stepped ▸ .redirect _ _ opening
  · simp at stepped

theorem openFileStep_effect {fd : Int} {reply : Response}
    (stepped : openFileStep contents server fd = some (next, reply)) :
    ServerEffect contents server (.openFile fd) next (some reply) := by
  unfold openFileStep at stepped
  split at stepped
  · rename_i handle path redirPath opening
    split at stepped
    · rename_i outcome
      simp only [Option.some.injEq, Prod.mk.injEq] at stepped
      obtain ⟨after, replied⟩ := stepped
      subst next reply
      by_cases failure : fd = -1
      · subst fd
        exact .openFailed handle path redirPath opening
      · obtain ⟨unused, present⟩ := outcome.resolve_left failure
        simp only [failure, if_false]
        exact .opened handle path redirPath fd opening unused present
    · simp at stepped
  · simp at stepped

theorem readFileStep_effect {failure : Bool}
    (stepped : readFileStep contents server failure = some (next, response)) :
    ServerEffect contents server (.readFile failure) next response := by
  unfold readFileStep at stepped
  split at stepped
  · rename_i handle inputVal accessfd offset reading
    split at stepped
    · rename_i negative
      simp only [Option.some.injEq, Prod.mk.injEq] at stepped
      obtain ⟨after, replied⟩ := stepped
      subst next response
      exact .readUnallocated handle inputVal accessfd offset failure reading negative
    · rename_i allocated
      simp only at stepped
      split at stepped
      · rename_i fits
        simp only [Option.some.injEq, Prod.mk.injEq] at stepped
        obtain ⟨after, replied⟩ := stepped
        subst next response
        exact .readDone handle inputVal accessfd offset failure _ reading (by omega) rfl fits
      · rename_i overrun
        simp only [Option.some.injEq, Prod.mk.injEq] at stepped
        obtain ⟨after, replied⟩ := stepped
        subst next response
        exact .readOverrun handle inputVal accessfd offset failure _ reading (by omega) rfl overrun
  · simp at stepped

theorem closeFdStep_effect (stepped : closeFdStep server = some next) :
    ServerEffect contents server .closeFd next none := by
  unfold closeFdStep at stepped
  split at stepped
  · rename_i fd closing
    cases found : server.kernel[fd]? with
    | none =>
        simp only [close, found] at stepped
        simp only [show (-1 : Int) ≠ 0 by decide, if_false, Option.some.injEq] at stepped
        exact stepped ▸ .closeFailed fd closing found
    | some descriptor =>
        simp only [close, found, if_true, Option.some.injEq] at stepped
        exact stepped ▸ .closed fd descriptor closing found
  · simp at stepped

theorem lockQueueStep_effect (stepped : lockQueueStep server = some next) :
    ServerEffect contents server .lockQueue next none := by
  unfold lockQueueStep at stepped
  split at stepped
  · rename_i locking free
    simp only [Option.some.injEq] at stepped
    exact stepped ▸ .lockQueue _ locking free
  · simp at stepped

theorem signalMoverStep_effect (stepped : signalMoverStep server = some next) :
    ServerEffect contents server .signalMover next none := by
  unfold signalMoverStep at stepped
  split at stepped
  · rename_i fd signalling
    simp only [Option.some.injEq] at stepped
    subst next
    split
    · rename_i before waiting
      exact .signalled fd before signalling waiting
    · rename_i awake
      exact .signalLost fd signalling awake
  · simp at stepped

theorem pushPathStep_effect (stepped : pushPathStep server = some next) :
    ServerEffect contents server .pushPath next none := by
  unfold pushPathStep at stepped
  split at stepped
  · rename_i pushing
    simp only [Option.some.injEq] at stepped
    exact stepped ▸ .pushPath _ pushing
  · simp at stepped

theorem unlockQueueStep_effect (stepped : unlockQueueStep server = some next) :
    ServerEffect contents server .unlockQueue next none := by
  unfold unlockQueueStep at stepped
  split at stepped
  · rename_i unlocking
    simp only [Option.some.injEq] at stepped
    exact stepped ▸ .unlockQueue _ unlocking
  · simp at stepped

theorem erasePathStep_effect (stepped : erasePathStep server = some next) :
    ServerEffect contents server .erasePath next none := by
  unfold erasePathStep at stepped
  split at stepped
  · rename_i erasing
    simp only [Option.some.injEq] at stepped
    exact stepped ▸ .erasePath _ erasing
  · simp at stepped

theorem moverLockStep_effect (stepped : moverLockStep server = some next) :
    ServerEffect contents server .moverLock next none := by
  unfold moverLockStep at stepped
  split at stepped
  · rename_i top free
    simp only [Option.some.injEq] at stepped
    exact stepped ▸ .moverLock top free
  · simp at stepped

theorem moverWaitStep_effect (stepped : moverWaitStep server = some next) :
    ServerEffect contents server .moverWait next none := by
  unfold moverWaitStep at stepped
  split at stepped
  · rename_i locked
    simp only [Option.some.injEq] at stepped
    exact stepped ▸ .moverWait locked
  · simp at stepped

theorem moverWakeStep_effect (stepped : moverWakeStep server = some next) :
    ServerEffect contents server .moverWake next none := by
  unfold moverWakeStep at stepped
  split at stepped
  · rename_i waiting free
    simp only [Option.some.injEq] at stepped
    exact stepped ▸ .moverWake _ waiting free
  · simp at stepped

theorem moverDrainStep_effect (stepped : moverDrainStep server = some next) :
    ServerEffect contents server .moverDrain next none := by
  unfold moverDrainStep at stepped
  split at stepped
  · rename_i draining queued
    simp only [Option.some.injEq] at stepped
    exact stepped ▸ .drained _ _ draining queued
  · rename_i draining empty
    simp only [Option.some.injEq] at stepped
    exact stepped ▸ .drainEnd draining empty
  · simp at stepped

theorem moverRestStep_effect (stepped : moverRestStep server = some next) :
    ServerEffect contents server .moverRest next none := by
  unfold moverRestStep at stepped
  split at stepped
  · rename_i looping empty
    simp only [Option.some.injEq] at stepped
    exact stepped ▸ .moverRest looping empty
  · simp at stepped

theorem moverMakeDirStep_effect {dirpath : String} {made : Bool}
    (stepped : moverMakeDirStep contents server dirpath made = some next) :
    ServerEffect contents server (.moverMakeDir dirpath made) next none := by
  unfold moverMakeDirStep at stepped
  split at stepped
  · rename_i looping front
    cases made with
    | true =>
        simp only [if_true] at stepped
        split at stepped
        · rename_i fresh
          simp only [Option.some.injEq] at stepped
          exact stepped ▸ .madeDir dirpath _ _ looping front fresh.1 fresh.2
        · simp at stepped
    | false =>
        simp only [Bool.false_eq_true, if_false, Option.some.injEq] at stepped
        exact stepped ▸ .noDir dirpath _ _ looping front
  · simp at stepped

theorem moverCreateStep_effect (stepped : moverCreateStep contents server = some next) :
    ServerEffect contents server .moverCreate next none := by
  unfold moverCreateStep at stepped
  split at stepped
  · rename_i copying front
    split at stepped
    · rename_i ready
      simp only [Option.some.injEq] at stepped
      exact stepped ▸ .created _ _ _ copying front ready.1 ready.2
    · simp at stepped
  · simp at stepped

theorem moverWriteStep_effect {count : Nat}
    (stepped : moverWriteStep contents server count = some next) :
    ServerEffect contents server (.moverWrite count) next none := by
  unfold moverWriteStep at stepped
  split at stepped
  · rename_i writing front
    split at stepped
    · rename_i source target
      simp only [Option.some.injEq] at stepped
      exact stepped ▸ .wrote _ _ _ count _ _ writing front source target
    · simp at stepped
  · simp at stepped

theorem moverCopiedStep_effect (stepped : moverCopiedStep contents server = some next) :
    ServerEffect contents server .moverCopied next none := by
  unfold moverCopiedStep at stepped
  split at stepped
  · rename_i writing front
    split at stepped
    · rename_i complete
      obtain ⟨present, equal⟩ := complete
      obtain ⟨bytes, source⟩ := Option.isSome_iff_exists.mp present
      simp only [Option.some.injEq] at stepped
      exact stepped ▸ .copied _ _ _ bytes writing front source (equal.trans source)
    · simp at stepped
  · simp at stepped

theorem moverThrowStep_effect (stepped : moverThrowStep server = some next) :
    ServerEffect contents server .moverThrow next none := by
  unfold moverThrowStep at stepped
  split at stepped
  · rename_i filename made copying
    simp only [Option.some.injEq] at stepped
    exact stepped ▸ .threw filename (Or.inl ⟨made, copying⟩)
  · rename_i filename writing
    simp only [Option.some.injEq] at stepped
    exact stepped ▸ .threw filename (Or.inr writing)
  · simp at stepped

theorem moverPopStep_effect (stepped : moverPopStep server = some next) :
    ServerEffect contents server .moverPop next none := by
  unfold moverPopStep at stepped
  split at stepped
  · rename_i popping front
    simp only [Option.some.injEq] at stepped
    exact stepped ▸ .popped _ _ popping front
  · simp at stepped

theorem threadAct_effect {action : ServerAction}
    (acted : threadAct contents server action = some (next, response)) :
    ServerEffect contents server action next response := by
  cases action with
  | openFile fd =>
      simp only [threadAct, Option.map_eq_some_iff] at acted
      obtain ⟨⟨after, reply⟩, stepped, same⟩ := acted
      simp only [Prod.mk.injEq] at same
      obtain ⟨sameServer, sameReply⟩ := same
      subst after response
      exact openFileStep_effect stepped
  | readFile failure => exact readFileStep_effect acted
  | accept request =>
      obtain ⟨stepped, rfl⟩ := silent_eq_some.mp acted
      exact acceptRequest_effect stepped
  | redirect =>
      obtain ⟨stepped, rfl⟩ := silent_eq_some.mp acted
      exact redirectStep_effect stepped
  | closeFd =>
      obtain ⟨stepped, rfl⟩ := silent_eq_some.mp acted
      exact closeFdStep_effect stepped
  | lockQueue =>
      obtain ⟨stepped, rfl⟩ := silent_eq_some.mp acted
      exact lockQueueStep_effect stepped
  | signalMover =>
      obtain ⟨stepped, rfl⟩ := silent_eq_some.mp acted
      exact signalMoverStep_effect stepped
  | pushPath =>
      obtain ⟨stepped, rfl⟩ := silent_eq_some.mp acted
      exact pushPathStep_effect stepped
  | unlockQueue =>
      obtain ⟨stepped, rfl⟩ := silent_eq_some.mp acted
      exact unlockQueueStep_effect stepped
  | erasePath =>
      obtain ⟨stepped, rfl⟩ := silent_eq_some.mp acted
      exact erasePathStep_effect stepped
  | moverLock =>
      obtain ⟨stepped, rfl⟩ := silent_eq_some.mp acted
      exact moverLockStep_effect stepped
  | moverWait =>
      obtain ⟨stepped, rfl⟩ := silent_eq_some.mp acted
      exact moverWaitStep_effect stepped
  | moverWake =>
      obtain ⟨stepped, rfl⟩ := silent_eq_some.mp acted
      exact moverWakeStep_effect stepped
  | moverDrain =>
      obtain ⟨stepped, rfl⟩ := silent_eq_some.mp acted
      exact moverDrainStep_effect stepped
  | moverRest =>
      obtain ⟨stepped, rfl⟩ := silent_eq_some.mp acted
      exact moverRestStep_effect stepped
  | moverMakeDir dirpath made =>
      obtain ⟨stepped, rfl⟩ := silent_eq_some.mp acted
      exact moverMakeDirStep_effect stepped
  | moverCreate =>
      obtain ⟨stepped, rfl⟩ := silent_eq_some.mp acted
      exact moverCreateStep_effect stepped
  | moverWrite count =>
      obtain ⟨stepped, rfl⟩ := silent_eq_some.mp acted
      exact moverWriteStep_effect stepped
  | moverCopied =>
      obtain ⟨stepped, rfl⟩ := silent_eq_some.mp acted
      exact moverCopiedStep_effect stepped
  | moverThrow =>
      obtain ⟨stepped, rfl⟩ := silent_eq_some.mp acted
      exact moverThrowStep_effect stepped
  | moverPop =>
      obtain ⟨stepped, rfl⟩ := silent_eq_some.mp acted
      exact moverPopStep_effect stepped

theorem serverAct_eq_some {action : ServerAction} {outcome : Server × Option Response} :
    serverAct contents server action = some outcome ↔
      server.handler ≠ .aborted ∧ threadAct contents server action = some outcome := by
  unfold serverAct
  split
  · simp [*]
  · simp [*]

theorem serverAct_effect {action : ServerAction}
    (acted : serverAct contents server action = some (next, response)) :
    ServerEffect contents server action next response :=
  threadAct_effect (serverAct_eq_some.mp acted).2

theorem serverStep_effect {action : ServerAction}
    (stepped : serverStep contents server action = some next) :
    ∃ response, ServerEffect contents server action next response := by
  simp only [serverStep, Option.map_eq_some_iff] at stepped
  obtain ⟨⟨after, response⟩, acted, same⟩ := stepped
  subst same
  exact ⟨response, serverAct_effect acted⟩

end

end HvacCache
