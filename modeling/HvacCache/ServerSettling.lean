import HvacCache.Redirection

/-! What the two threads of a server do when no request arrives: they come to rest, and by
then the mover has dealt with whatever it was signalled for. -/

namespace HvacCache

open Posix Transition

def frontLength (contents : String → Option Bytes) (localList : List String) : Nat :=
  (localList.head?.bind contents).elim 0 List.length

def writtenLength (nvme : OrderedMap String Bytes) (filename : String) : Nat :=
  (nvme[filename]?).elim 0 List.length

def Server.Unfinished (contents : String → Option Bytes) (server : Server) : Prop :=
  match server.mover with
  | .writing filename =>
      writtenLength server.nvme filename < frontLength contents server.localList
  | _ => True

instance (contents : String → Option Bytes) (server : Server) :
    Decidable (server.Unfinished contents) := by
  unfold Server.Unfinished
  split <;> infer_instance

/-- A step that needs no request. `fs::copy` writes something with each of its writes. -/
def Unrequested (contents : String → Option Bytes) (server : Server) : ServerAction → Prop
  | .accept _ => False
  | .moverWrite count => 1 ≤ count ∧ server.Unfinished contents
  | _ => True

instance (contents : String → Option Bytes) (server : Server) (action : ServerAction) :
    Decidable (Unrequested contents server action) := by
  unfold Unrequested
  split <;> infer_instance

def spuriousWake (server : Server) : ServerAction → Nat
  | .moverWake => if server.mover = .waiting false then 1 else 0
  | _ => 0

def OwnWork (contents : String → Option Bytes) (server : Server) : ServerAction → Prop
  | .accept _ => False
  | .moverWake => server.mover = .waiting true
  | .moverWrite count => 1 ≤ count ∧ server.Unfinished contents
  | _ => True

instance (contents : String → Option Bytes) (server : Server) (action : ServerAction) :
    Decidable (OwnWork contents server action) := by
  unfold OwnWork
  split <;> infer_instance

/-! How much there is to do. -/

def copyCost (contents : String → Option Bytes) (path : String) : Nat :=
  (contents path).elim 0 List.length + 4

def copyCosts (contents : String → Option Bytes) (paths : List String) : Nat :=
  (paths.map (copyCost contents)).sum

def pushCost (contents : String → Option Bytes) (fdToPath : OrderedMap Int String) (fd : Int) : Nat :=
  copyCost contents (OrderedMap.index fdToPath fd).1 + 1

def HandlerPc.budget (contents : String → Option Bytes) (fdToPath : OrderedMap Int String) :
    HandlerPc → Nat
  | .openRpc _ _ => 2
  | .openRedirected _ _ _ => 1
  | .readRpc _ _ _ _ => 1
  | .closeRpc fd => 11 + pushCost contents fdToPath fd
  | .closeLock fd => 10 + pushCost contents fdToPath fd
  | .closeSignal fd => 9 + pushCost contents fdToPath fd
  | .closePush fd => 3 + pushCost contents fdToPath fd
  | .closeUnlock _ => 2
  | .closeErase _ => 1
  | _ => 0

def MoverPc.budget (contents : String → Option Bytes) (nvme : OrderedMap String Bytes)
    (localList : List String) : MoverPc → Nat
  | .waiting true => 5 + copyCosts contents localList
  | .draining => 4 + copyCosts contents localList
  | .copyLoop => 3 + copyCosts contents localList
  | .loopTop => 2 + copyCosts contents localList
  | .locked => 1 + copyCosts contents localList
  | .waiting false => copyCosts contents localList
  | .copying _ _ => 6 + frontLength contents localList + copyCosts contents localList.tail
  | .writing filename => 5 + (frontLength contents localList - writtenLength nvme filename) +
      copyCosts contents localList.tail
  | .popping => 4 + copyCosts contents localList.tail

def Server.budget (contents : String → Option Bytes) (server : Server) : Nat :=
  server.handler.budget contents server.fdToPath +
    server.mover.budget contents server.nvme server.localList +
    (copyCosts contents server.dataQueue + server.dataQueue.length)

section
variable {contents : String → Option Bytes} {server next : Server} {action : ServerAction}
  {response : Option Response}

@[simp] theorem copyCosts_nil : copyCosts contents [] = 0 := rfl

@[simp] theorem copyCosts_append (first second : List String) :
    copyCosts contents (first ++ second) = copyCosts contents first + copyCosts contents second := by
  simp [copyCosts]

@[simp] theorem copyCosts_cons (path : String) (rest : List String) :
    copyCosts contents (path :: rest) = copyCost contents path + copyCosts contents rest := by
  simp [copyCosts]

theorem ServerEffect.budget (effect : ServerEffect contents server action next response)
    (own : OwnWork contents server action) :
    next.budget contents < server.budget contents := by
  unfold Server.budget
  cases effect with
  | acceptOpen | acceptRead | acceptClose => exact absurd own (by simp [OwnWork])
  | closed fd descriptor closing found =>
      simp only [closing]
      by_cases uncached :
          (server.pathCacheMap[(OrderedMap.index server.fdToPath fd).1]?).isNone = true
      · simp only [uncached, if_true, HandlerPc.budget, pushCost, OrderedMap.index_index]
        omega
      · simp only [if_neg uncached, HandlerPc.budget]
        omega
  | signalled fd before signalling waiting =>
      cases before <;> simp only [signalling, waiting, HandlerPc.budget, MoverPc.budget] <;> omega
  | pushPath fd pushing =>
      simp only [pushing, HandlerPc.budget, pushCost, copyCosts_append, copyCosts_cons,
        copyCosts_nil, List.length_append, List.length_singleton]
      omega
  | moverWake signalled waiting free =>
      have woken : server.mover = .waiting true := own
      simp only [woken, MoverPc.budget]
      omega
  | drained path rest draining queued =>
      simp only [draining, queued, MoverPc.budget, copyCosts_append, copyCosts_cons,
        copyCosts_nil, List.length_cons]
      omega
  | madeDir dirpath path rest looping front newDir absent =>
      simp only [looping, front, MoverPc.budget, copyCosts_cons, copyCost, frontLength,
        List.head?_cons, Option.bind_some, List.tail_cons]
      omega
  | noDir dirpath path rest looping front =>
      simp only [looping, front, MoverPc.budget, copyCosts_cons, copyCost, frontLength,
        List.head?_cons, Option.bind_some, List.tail_cons]
      omega
  | created filename path rest copying front source absent =>
      simp only [copying, MoverPc.budget]
      omega
  | wrote filename path rest count bytes written writing front source target =>
      obtain ⟨positive, unfinished⟩ := own
      simp only [Server.Unfinished, writing, writtenLength, frontLength, front, source, target,
        List.head?_cons, Option.bind_some, Option.elim_some] at unfinished
      simp only [writing, MoverPc.budget, writtenLength, frontLength, front, source, target,
        List.head?_cons, Option.bind_some, Option.elim_some, OrderedMap.getElem?_insert_ite,
        if_true, List.length_take]
      omega
  | copied filename path rest bytes writing front source complete =>
      simp only [writing, MoverPc.budget]
      omega
  | threw filename inCopy =>
      rcases inCopy with ⟨made, copying⟩ | writing
      · simp only [copying, MoverPc.budget]
        omega
      · simp only [writing, MoverPc.budget]
        omega
  | popped path rest popping front =>
      simp only [popping, front, MoverPc.budget, List.tail_cons]
      omega
  | moverLock top free =>
      simp only [top, MoverPc.budget]
      omega
  | moverWait locked =>
      simp only [locked, MoverPc.budget]
      omega
  | drainEnd draining empty =>
      simp only [draining, MoverPc.budget]
      omega
  | moverRest looping empty =>
      simp only [looping, MoverPc.budget]
      omega
  | _ =>
      simp_all only [HandlerPc.budget]
      omega

/-! Where neither thread can go on. -/

def MoverPc.hasFront : MoverPc → Bool
  | .copying _ _ => true
  | .writing _ => true
  | .popping => true
  | _ => false

def MoverPc.resting : MoverPc → Bool
  | .loopTop => true
  | .locked => true
  | .waiting _ => true
  | _ => false

structure ListInv (server : Server) : Prop where
  front : server.mover.hasFront = true → server.localList ≠ []
  rest : server.mover.resting = true → server.localList = []

theorem listInv_initial : ListInv Server.initial := by
  constructor <;> simp [Server.initial, MoverPc.hasFront]

theorem ServerEffect.listInv (effect : ServerEffect contents server action next response)
    (inv : ListInv server) : ListInv next := by
  obtain ⟨front, rest⟩ := inv
  cases effect with
  | threw filename inCopy =>
      refine ⟨fun _ => ?_, by simp [MoverPc.resting]⟩
      rcases inCopy with ⟨made, copying⟩ | writing
      · exact front (by rw [copying]; rfl)
      · exact front (by rw [writing]; rfl)
  | _ => constructor <;> simp_all [MoverPc.hasFront, MoverPc.resting]

/-- The handler has nothing in hand and the mover waits for a signal that has not come, unless
an assertion has ended the process. -/
def Settled (server : Server) : Prop :=
  server.handler = .aborted ∨ server.handler = .idle ∧ server.mover = .waiting false

theorem MutexInv.free (mutex : MutexInv server) (running : server.handler ≠ .aborted)
    (stuck : Halted (serverStep contents) (OwnWork contents) server) : server.dataMutex = none := by
  cases held : server.dataMutex with
  | none => rfl
  | some holder =>
      exfalso
      cases holder with
      | progress =>
          have holding := mutex.progress.mpr held
          cases handling : server.handler with
          | closeSignal fd =>
              have refused := stuck .signalMover trivial
              simp [serverStep, serverAct, threadAct, signalMoverStep, handling, silent] at refused
          | closePush fd =>
              have refused := stuck .pushPath trivial
              simp [serverStep, serverAct, threadAct, pushPathStep, handling, silent] at refused
          | closeUnlock fd =>
              have refused := stuck .unlockQueue trivial
              simp [serverStep, serverAct, threadAct, unlockQueueStep, handling, silent] at refused
          | _ => simp [handling, HandlerPc.holdsMutex] at holding
      | mover =>
          have holding := mutex.mover.mpr held
          cases moving : server.mover with
          | locked =>
              have refused := stuck .moverWait trivial
              simp [serverStep, serverAct, threadAct, running, moverWaitStep, moving,
                silent] at refused
          | draining =>
              have refused := stuck .moverDrain trivial
              cases queued : server.dataQueue with
              | nil =>
                  simp [serverStep, serverAct, threadAct, running, moverDrainStep, moving, queued,
                    silent] at refused
              | cons path rest =>
                  simp [serverStep, serverAct, threadAct, running, moverDrainStep, moving, queued,
                    silent] at refused
          | _ => simp [moving, MoverPc.holdsMutex] at holding

theorem stuck_handler (stuck : Halted (serverStep contents) (OwnWork contents) server)
    (running : server.handler ≠ .aborted) (free : server.dataMutex = none) :
    server.handler = .idle := by
  cases handling : server.handler with
  | idle => rfl
  | aborted => exact absurd handling running
  | openRpc handle path =>
      have refused := stuck .redirect trivial
      simp [serverStep, serverAct, threadAct, redirectStep, handling, silent] at refused
  | openRedirected handle path redirPath =>
      have refused := stuck (.openFile (-1)) trivial
      simp [serverStep, serverAct, threadAct, openFileStep, handling] at refused
  | readRpc handle inputVal accessfd offset =>
      have refused := stuck (.readFile false) trivial
      simp only [serverStep, serverAct, threadAct, readFileStep, handling, reduceCtorEq, if_false,
        Option.map_eq_none_iff] at refused
      split at refused
      · simp at refused
      · split at refused <;> simp at refused
  | closeRpc fd =>
      have refused := stuck .closeFd trivial
      simp only [serverStep, serverAct, threadAct, closeFdStep, handling, silent, reduceCtorEq,
        if_false, Option.map_eq_none_iff] at refused
      split at refused <;> simp at refused
  | closeLock fd =>
      have refused := stuck .lockQueue trivial
      simp [serverStep, serverAct, threadAct, lockQueueStep, handling, free, silent] at refused
  | closeSignal fd =>
      have refused := stuck .signalMover trivial
      simp [serverStep, serverAct, threadAct, signalMoverStep, handling, silent] at refused
  | closePush fd =>
      have refused := stuck .pushPath trivial
      simp [serverStep, serverAct, threadAct, pushPathStep, handling, silent] at refused
  | closeUnlock fd =>
      have refused := stuck .unlockQueue trivial
      simp [serverStep, serverAct, threadAct, unlockQueueStep, handling, silent] at refused
  | closeErase fd =>
      have refused := stuck .erasePath trivial
      simp [serverStep, serverAct, threadAct, erasePathStep, handling, silent] at refused

theorem stuck_mover (stuck : Halted (serverStep contents) (OwnWork contents) server)
    (running : server.handler ≠ .aborted) (free : server.dataMutex = none)
    (lists : ListInv server) (mutex : MutexInv server) : server.mover = .waiting false := by
  cases moving : server.mover with
  | loopTop =>
      have refused := stuck .moverLock trivial
      simp [serverStep, serverAct, threadAct, running, moverLockStep, moving, free,
        silent] at refused
  | locked =>
      have refused := stuck .moverWait trivial
      simp [serverStep, serverAct, threadAct, running, moverWaitStep, moving, silent] at refused
  | waiting signalled =>
      cases signalled with
      | false => rfl
      | true =>
          have refused := stuck .moverWake moving
          simp [serverStep, serverAct, threadAct, running, moverWakeStep, moving, free,
            silent] at refused
  | draining =>
      have holding := mutex.mover.mp (by rw [moving]; rfl)
      simp [free] at holding
  | copyLoop =>
      cases listed : server.localList with
      | nil =>
          have refused := stuck .moverRest trivial
          simp [serverStep, serverAct, threadAct, running, moverRestStep, moving, listed,
            silent] at refused
      | cons path rest =>
          have refused := stuck (.moverMakeDir "" false) trivial
          simp [serverStep, serverAct, threadAct, running, moverMakeDirStep, moving, listed,
            silent] at refused
  | copying filename made =>
      have refused := stuck .moverThrow trivial
      simp [serverStep, serverAct, threadAct, running, moverThrowStep, moving, silent] at refused
  | writing filename =>
      have refused := stuck .moverThrow trivial
      simp [serverStep, serverAct, threadAct, running, moverThrowStep, moving, silent] at refused
  | popping =>
      have refused := stuck .moverPop trivial
      cases listed : server.localList with
      | nil => exact absurd listed (lists.front (by rw [moving]; rfl))
      | cons path rest =>
          simp [serverStep, serverAct, threadAct, running, moverPopStep, moving, listed,
            silent] at refused

/-! What the mover has been signalled for. -/

structure Due (count : Nat) (server : Server) : Prop where
  pushed : count ≤ server.log.pushed.length
  fetched : server.mover = .waiting true ∨ server.mover = .draining ∨
    count ≤ server.log.handled.length + server.localList.length

theorem ServerEffect.due (effect : ServerEffect contents server action next response) {count : Nat}
    (conserved : Conserved server) (due : Due count server) : Due count next := by
  obtain ⟨pushed, fetched⟩ := due
  cases effect with
  | pushPath fd pushing =>
      refine ⟨?_, fetched⟩
      simp only [List.length_append]
      omega
  | signalled fd before signalling waiting => exact ⟨pushed, Or.inl rfl⟩
  | moverWake signalled waiting free => exact ⟨pushed, Or.inr (Or.inl rfl)⟩
  | drained path rest draining queued => exact ⟨pushed, Or.inr (Or.inl draining)⟩
  | drainEnd draining empty =>
      -- The queue is empty, so that all that was pushed has come out of it.
      refine ⟨pushed, Or.inr (Or.inr ?_)⟩
      rw [Conserved, empty, List.append_nil] at conserved
      rw [← conserved, List.length_append] at pushed
      exact pushed
  | popped path rest popping front =>
      refine ⟨pushed, Or.inr (Or.inr ?_)⟩
      simp only [popping, front, reduceCtorEq, false_or, List.length_cons] at fetched
      simp only [List.length_append, List.length_singleton]
      omega
  | threw filename inCopy =>
      refine ⟨pushed, ?_⟩
      rcases inCopy with ⟨made, copying⟩ | writing
      · simpa [copying] using fetched
      · simpa [writing] using fetched
  | _ => exact ⟨pushed, by simp_all⟩

structure AllCopied (server : Server) : Prop where
  handled : ∀ path ∈ server.log.handled, (server.pathCacheMap[path]?).isSome
  popping : server.mover = .popping → ∀ path, server.localList.head? = some path →
    (server.pathCacheMap[path]?).isSome

theorem ServerEffect.allCopied (effect : ServerEffect contents server action next response)
    (complete : action ≠ .moverThrow) (copied : AllCopied server) : AllCopied next := by
  obtain ⟨handled, popping⟩ := copied
  cases effect with
  | copied filename path rest bytes writing front source complete =>
      have kept : ∀ other : String, (server.pathCacheMap[other]?).isSome →
          ((server.pathCacheMap.insert path filename)[other]?).isSome := by
        intro other present
        rw [OrderedMap.getElem?_insert_ite]
        split
        · rfl
        · exact present
      refine ⟨fun other member => kept other (handled other member), ?_⟩
      intro _ other first
      rw [front, List.head?_cons, Option.some.injEq] at first
      simp [first]
  | popped path rest pops front =>
      refine ⟨?_, by simp⟩
      intro other member
      rcases List.mem_append.mp member with old | new
      · exact handled other old
      · exact popping pops other (by simp [front, List.mem_singleton.mp new])
  | threw filename inCopy => exact absurd rfl complete
  | _ => exact ⟨handled, by simp_all⟩

theorem ServerEffect.pushed (effect : ServerEffect contents server action next response) :
    server.log.pushed <+: next.log.pushed := by
  cases effect with
  | pushPath fd pushing => exact List.prefix_append _ _
  | _ => exact List.prefix_rfl

end

theorem ownWork_decreasing (contents : String → Option Bytes) (server : Server)
    (action : ServerAction) (next : Server) (own : OwnWork contents server action)
    (stepped : serverStep contents server action = some next) :
    next.budget contents < server.budget contents := by
  obtain ⟨response, effect⟩ := serverStep_effect stepped
  exact effect.budget own

theorem unrequested_lowers (contents : String → Option Bytes) (server : Server)
    (action : ServerAction) (next : Server) (unrequested : Unrequested contents server action)
    (stepped : serverStep contents server action = some next) :
    next.budget contents < server.budget contents + 5 * spuriousWake server action := by
  by_cases own : OwnWork contents server action
  · exact Nat.lt_add_right _ (ownWork_decreasing contents server action next own stepped)
  · obtain ⟨response, effect⟩ := serverStep_effect stepped
    cases effect with
    | acceptOpen | acceptRead | acceptClose => exact absurd unrequested id
    | moverWake signalled waiting free =>
        cases signalled with
        | true => exact absurd waiting own
        | false =>
            simp only [Server.budget, spuriousWake, waiting, if_true, MoverPc.budget]
            omega
    | wrote => exact absurd unrequested own
    | _ => exact absurd trivial own

section
variable {contents : String → Option Bytes} {server final : Server}
  {actions later : List ServerAction}

theorem run_mutex_lists
    (ran : run (serverStep contents) Server.initial actions = some server) :
    MutexInv server ∧ ListInv server := by
  have preserved : ∀ before action after, MutexInv before ∧ ListInv before →
      serverStep contents before action = some after → MutexInv after ∧ ListInv after := by
    rintro before action after ⟨mutex, lists⟩ stepped
    obtain ⟨response, effect⟩ := serverStep_effect stepped
    exact ⟨effect.mutexInv mutex, effect.listInv lists⟩
  exact run_invariant preserved ⟨mutexInv_initial, listInv_initial⟩ ran

theorem settled_of_stuck
    (ran : run (serverStep contents) Server.initial actions = some server)
    (stuck : Halted (serverStep contents) (OwnWork contents) server) : Settled server := by
  obtain ⟨mutex, lists⟩ := run_mutex_lists ran
  by_cases aborted : server.handler = .aborted
  · exact Or.inl aborted
  · have free := mutex.free aborted stuck
    exact Or.inr ⟨stuck_handler stuck aborted free, stuck_mover stuck aborted free lists mutex⟩

theorem run_conserved
    (ran : run (serverStep contents) Server.initial actions = some server) : Conserved server := by
  have preserved : ∀ before action after, Conserved before →
      serverStep contents before action = some after → Conserved after := by
    intro before action after conserved stepped
    obtain ⟨response, effect⟩ := serverStep_effect stepped
    exact effect.conserved conserved
  have initial : Conserved Server.initial := rfl
  exact run_invariant preserved initial ran

theorem run_due
    (ran : run (serverStep contents) Server.initial actions = some server)
    (called : server.mover = .waiting true ∨ server.mover = .draining)
    (further : run (serverStep contents) server later = some final) :
    Conserved final ∧ Due server.log.pushed.length final ∧
      server.log.pushed <+: final.log.pushed := by
  have preserved : ∀ before action after,
      Conserved before ∧ Due server.log.pushed.length before ∧
        server.log.pushed <+: before.log.pushed →
      serverStep contents before action = some after →
      Conserved after ∧ Due server.log.pushed.length after ∧
        server.log.pushed <+: after.log.pushed := by
    rintro before action after ⟨conserved, due, grown⟩ stepped
    obtain ⟨response, effect⟩ := serverStep_effect stepped
    exact ⟨effect.conserved conserved, effect.due conserved due, grown.trans effect.pushed⟩
  have initial : Due server.log.pushed.length server :=
    ⟨Nat.le_refl _, called.imp_right Or.inl⟩
  exact run_invariant preserved ⟨run_conserved ran, initial, List.prefix_rfl⟩ further

def Copies (_ : Server) (action : ServerAction) : Prop := action ≠ .moverThrow

theorem run_copied (copies : ∀ action ∈ actions, action ≠ .moverThrow)
    (ran : run (serverStep contents) Server.initial actions = some server) :
    AllCopied server ∧ StoreInv contents server := by
  have preserved : ∀ before action after, AllCopied before ∧ StoreInv contents before →
      Copies before action → serverStep contents before action = some after →
      AllCopied after ∧ StoreInv contents after := by
    rintro before action after ⟨copied, store⟩ complete stepped
    obtain ⟨response, effect⟩ := serverStep_effect stepped
    exact ⟨effect.allCopied complete copied, effect.storeInv store⟩
  have initial : AllCopied Server.initial := by
    constructor <;> simp [Server.initial]
  have meets : Meets (serverStep contents) Copies Server.initial actions :=
    meets_of_forall (fun action member _ => copies action member) _
  exact run_invariant_of_meets preserved ⟨initial, storeInv_initial⟩ meets ran

end

/-- Without new requests the handler and the mover come to rest however they are scheduled: no
schedule goes on for longer than `budget` steps and five more for each spurious return of
`pthread_cond_wait`, some schedule gets there without one, and where neither thread can take a
step, neither waits for the mutex. -/
theorem server_settles (contents : String → Option Bytes) (actions : List ServerAction)
    (server : Server) (ran : run (serverStep contents) Server.initial actions = some server) :
    Reaches (serverStep contents) (OwnWork contents) Settled server ∧
    ∀ later final, Meets (serverStep contents) (Unrequested contents) server later →
      run (serverStep contents) server later = some final →
      later.length + final.budget contents ≤ server.budget contents +
        5 * spent (serverStep contents) spuriousWake server later ∧
      (Halted (serverStep contents) (OwnWork contents) final → Settled final) := by
  constructor
  · obtain ⟨later, final, own, further, stuck⟩ :=
      reaches_halted (ownWork_decreasing contents) server
    have whole := (run_append _ actions later final).mpr ⟨server, ran, further⟩
    exact ⟨later, final, own, further, settled_of_stuck whole stuck⟩
  · intro later final unrequested further
    have whole := (run_append _ actions later final).mpr ⟨server, ran, further⟩
    have bound := run_length_le (unrequested_lowers contents) unrequested further
    rw [spent_mul] at bound
    exact ⟨bound, settled_of_stuck whole⟩

def signalledClose : List ServerAction :=
  [.moverLock, .moverWait] ++ (openClose 0 5).take 8

theorem server_settles_signalledClose : ∃ server,
    run (serverStep oneFile) Server.initial signalledClose = some server ∧
    server.mover = .waiting true ∧ server.dataMutex = some .progress ∧
    Reaches (serverStep oneFile) (OwnWork oneFile) Settled server ∧
    ∀ later final, Meets (serverStep oneFile) (Unrequested oneFile) server later →
      run (serverStep oneFile) server later = some final →
      later.length + final.budget oneFile ≤ server.budget oneFile +
        5 * spent (serverStep oneFile) spuriousWake server later ∧
      (Halted (serverStep oneFile) (OwnWork oneFile) final → Settled final) := by
  have reached : (run (serverStep oneFile) Server.initial signalledClose).map
      (fun server => (server.mover, server.dataMutex)) =
      some (.waiting true, some .progress) := by decide
  obtain ⟨server, ran, facts⟩ := Option.map_eq_some_iff.mp reached
  simp only [Prod.mk.injEq] at facts
  exact ⟨server, ran, facts.1, facts.2, server_settles oneFile signalledClose server ran⟩

/-- Once the mover has been signalled, or is emptying the queue, every path pushed so far is
handled by the time it waits for another signal, whatever happens in between, and if no `fs::copy`
has thrown, each of them is a key of the map, with a copy that has all bytes of the file. -/
theorem signalled_paths_are_cached (contents : String → Option Bytes)
    (actions later : List ServerAction) (server final : Server)
    (ran : run (serverStep contents) Server.initial actions = some server)
    (called : server.mover = .waiting true ∨ server.mover = .draining)
    (further : run (serverStep contents) server later = some final)
    (waits : final.mover = .waiting false) :
    server.log.pushed <+: final.log.handled ∧
    ((∀ action ∈ actions ++ later, action ≠ .moverThrow) → ∀ path ∈ server.log.pushed,
      ∃ filename bytes, final.pathCacheMap[path]? = some filename ∧
        contents path = some bytes ∧ final.nvme[filename]? = some bytes) := by
  have whole := (run_append _ actions later final).mpr ⟨server, ran, further⟩
  obtain ⟨conserved, due, grown⟩ := run_due ran called further
  have rest : final.localList = [] :=
    (run_mutex_lists whole).2.rest (by rw [waits]; rfl)
  have enough : server.log.pushed.length ≤ final.log.handled.length := by
    simpa [waits, rest] using due.fetched
  rw [Conserved, rest, List.append_nil] at conserved
  have handled : server.log.pushed <+: final.log.handled := by
    refine List.prefix_of_prefix_length_le grown ?_ enough
    rw [← conserved]
    exact List.prefix_append _ _
  refine ⟨handled, ?_⟩
  intro copies path pushed
  obtain ⟨copied, store⟩ := run_copied copies whole
  obtain ⟨filename, found⟩ := Option.isSome_iff_exists.mp
    (copied.handled path (handled.subset pushed))
  obtain ⟨bytes, source, stored⟩ := store.complete path filename (store.mapped path filename found)
  exact ⟨filename, bytes, found, source, stored⟩

def unlockAndCopy : List ServerAction :=
  [.unlockQueue, .moverWake, .erasePath, .moverDrain, .moverDrain] ++ copyFront "/bb/AAA" ++
    [.moverRest, .moverLock, .moverWait]

theorem signalled_paths_are_cached_unlockAndCopy : ∃ server final,
    run (serverStep oneFile) Server.initial signalledClose = some server ∧
    run (serverStep oneFile) server unlockAndCopy = some final ∧
    server.log.pushed = ["/d/f"] ∧
    server.log.pushed <+: final.log.handled ∧
    ((∀ action ∈ signalledClose ++ unlockAndCopy, action ≠ .moverThrow) →
      ∀ path ∈ server.log.pushed, ∃ filename bytes,
        final.pathCacheMap[path]? = some filename ∧
        oneFile path = some bytes ∧ final.nvme[filename]? = some bytes) := by
  have reached : (run (serverStep oneFile) Server.initial signalledClose).map
      (fun server => (server.mover, server.log.pushed)) =
      some (.waiting true, ["/d/f"]) := by decide
  obtain ⟨server, ran, facts⟩ := Option.map_eq_some_iff.mp reached
  simp only [Prod.mk.injEq] at facts
  have finished : (run (serverStep oneFile) Server.initial (signalledClose ++ unlockAndCopy)).map
      (fun final => (final.mover, final.handler)) = some (.waiting false, .idle) := by decide
  obtain ⟨final, ended, rest⟩ := Option.map_eq_some_iff.mp finished
  simp only [Prod.mk.injEq] at rest
  obtain ⟨middle, again, further⟩ := (run_append _ signalledClose unlockAndCopy final).mp ended
  rw [ran, Option.some.injEq] at again
  subst middle
  exact ⟨server, final, ran, further, facts.2, signalled_paths_are_cached oneFile signalledClose
    unlockAndCopy server final ran (Or.inl facts.1) further rest.1⟩

end HvacCache
