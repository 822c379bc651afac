import HvacCache.Library.OrderedMap
import HvacCache.Library.Transition
import Mathlib.Data.Fintype.Basic
import Mathlib.Logic.Function.Basic

/-! The completion handshake of `hvac_comm_client.cpp`: one flag `done` and one
value `read_ret` serve every blocking RPC of the process. The callbacks and the
waiters use them under `done_mutex`; the resets at the start of a request do not. -/

namespace HvacCache

structure Completion where
  done : UInt8
  readRet : Int
deriving DecidableEq, Repr

namespace Completion

def initial : Completion := { done := 0, readRet := -1 }

def resetDone (state : Completion) : Completion := { state with done := 0 }

def resetReadRet (state : Completion) : Completion := { state with readRet := -1 }

def openCb (state : Completion) : Completion := { state with done := state.done + 1 }

def readCb (state : Completion) (ret : Int) : Completion :=
  { done := state.done + 1, readRet := ret }

def ready (state : Completion) : Bool := state.done == 1

end Completion

/-- The three blocking requests; `hvac_remote_pread` sends a read request. -/
inductive RpcKind
  | openRpc
  | readRpc
  | seekRpc
deriving DecidableEq, Repr

inductive ThreadPc
  | idle
  | entered (kind : RpcKind)
  | halfReset (kind : RpcKind)
  | prepared (kind : RpcKind)
  | blocking (kind : RpcKind) (rpc : Nat)
  | waiting (kind : RpcKind) (rpc : Nat)
  | released (kind : RpcKind) (rpc : Nat)
  | returned (kind : RpcKind) (rpc : Nat) (value : Option Int)
deriving DecidableEq, Repr

def ThreadPc.isWaiting : ThreadPc → Bool
  | .waiting _ _ => true
  | _ => false

structure IssuedRpc where
  kind : RpcKind
  answer : Option Int
deriving DecidableEq, Repr

structure BlockState (Thread : Type) where
  completion : Completion
  pc : Thread → ThreadPc
  nextRpc : Nat
  rpcs : OrderedMap Nat IssuedRpc

def BlockState.initial (Thread : Type) : BlockState Thread := {
  completion := .initial
  pc := fun _ => .idle
  nextRpc := 0
  rpcs := ∅
}

inductive BlockAction (Thread : Type)
  | enter (thread : Thread) (kind : RpcKind)
  | reset (thread : Thread)
  | forward (thread : Thread)
  | callback (rpc : Nat) (ret : Int) (woken : Option Thread)
  | test (thread : Thread)
  | spuriousWakeup (thread : Thread)
  | collect (thread : Thread)
  | leave (thread : Thread)

section
variable {Thread : Type} [DecidableEq Thread]

def BlockState.setPc (state : BlockState Thread) (thread : Thread) (pc : ThreadPc) :
    BlockState Thread :=
  { state with pc := Function.update state.pc thread pc }

/-- The next assignment of the request function. An open only resets `done`, a read
resets `done` and then `read_ret`, a seek the other way round. -/
def resetStep (state : BlockState Thread) (thread : Thread) : Option (BlockState Thread) :=
  match state.pc thread with
  | .entered .openRpc =>
      some { state.setPc thread (.prepared .openRpc) with completion := state.completion.resetDone }
  | .entered .readRpc =>
      some { state.setPc thread (.halfReset .readRpc) with completion := state.completion.resetDone }
  | .halfReset .readRpc =>
      some { state.setPc thread (.prepared .readRpc) with
        completion := state.completion.resetReadRet }
  | .entered .seekRpc =>
      some { state.setPc thread (.halfReset .seekRpc) with
        completion := state.completion.resetReadRet }
  | .halfReset .seekRpc =>
      some { state.setPc thread (.prepared .seekRpc) with completion := state.completion.resetDone }
  | _ => none

def forwardStep (state : BlockState Thread) (thread : Thread) : Option (BlockState Thread) :=
  match state.pc thread with
  | .prepared kind =>
      some { state.setPc thread (.blocking kind state.nextRpc) with
        nextRpc := state.nextRpc + 1
        rpcs := state.rpcs.insert state.nextRpc { kind, answer := none } }
  | _ => none

/-- `pthread_cond_signal` moves one waiting thread back to its test, if there is one. -/
def signalDone [Fintype Thread] (state : BlockState Thread) :
    Option Thread → Option (BlockState Thread)
  | some thread =>
      match state.pc thread with
      | .waiting kind rpc => some (state.setPc thread (.blocking kind rpc))
      | _ => none
  | none => if ∀ thread, (state.pc thread).isWaiting = false then some state else none

def callbackStep [Fintype Thread] (state : BlockState Thread) (rpc : Nat) (ret : Int)
    (woken : Option Thread) : Option (BlockState Thread) :=
  match state.rpcs[rpc]? with
  | some { kind, answer := none } =>
      signalDone { state with
        completion := if kind = .openRpc then state.completion.openCb
          else state.completion.readCb ret
        rpcs := state.rpcs.insert rpc { kind, answer := some ret } } woken
  | _ => none

/-- One evaluation of `done != HG_TRUE` with `done_mutex` held. -/
def testStep (state : BlockState Thread) (thread : Thread) : Option (BlockState Thread) :=
  match state.pc thread with
  | .blocking kind rpc =>
      if state.completion.ready then some (state.setPc thread (.released kind rpc))
      else some (state.setPc thread (.waiting kind rpc))
  | _ => none

/-- The rest of the block function: only reads and seeks fetch `read_ret`. -/
def collectStep (state : BlockState Thread) (thread : Thread) : Option (BlockState Thread) :=
  match state.pc thread with
  | .released kind rpc =>
      let value := if kind = .openRpc then none else some state.completion.readRet
      some (state.setPc thread (.returned kind rpc value))
  | _ => none

def blockStep [Fintype Thread] (state : BlockState Thread) :
    BlockAction Thread → Option (BlockState Thread)
  | .enter thread kind =>
      match state.pc thread with
      | .idle => some (state.setPc thread (.entered kind))
      | _ => none
  | .reset thread => resetStep state thread
  | .forward thread => forwardStep state thread
  | .callback rpc ret woken => callbackStep state rpc ret woken
  | .test thread => testStep state thread
  | .spuriousWakeup thread =>
      match state.pc thread with
      | .waiting kind rpc => some (state.setPc thread (.blocking kind rpc))
      | _ => none
  | .collect thread => collectStep state thread
  | .leave thread =>
      match state.pc thread with
      | .returned _ _ _ => some (state.setPc thread .idle)
      | _ => none

end

end HvacCache
