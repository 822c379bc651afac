import HvacCache.Server

/-! The queue between the close handler and the data mover. Nothing pushed is lost,
duplicated or reordered, but a signal sent while the mover is not waiting is lost, and
a path that is still queued can be pushed again. -/

namespace HvacCache

open Posix Transition

section
variable {contents : String → Option Bytes} {server next : Server}

/-! Who holds `data_mutex`. -/

def HandlerPc.holdsMutex : HandlerPc → Bool
  | .closeSignal _ => true
  | .closePush _ => true
  | .closeUnlock _ => true
  | _ => false

def MoverPc.holdsMutex : MoverPc → Bool
  | .locked => true
  | .draining => true
  | _ => false

structure MutexInv (server : Server) : Prop where
  progress : server.handler.holdsMutex = true ↔ server.dataMutex = some .progress
  mover : server.mover.holdsMutex = true ↔ server.dataMutex = some .mover

theorem mutexInv_initial : MutexInv Server.initial := by
  constructor <;> simp [Server.initial, HandlerPc.holdsMutex, MoverPc.holdsMutex]

theorem ServerEffect.mutexInv {action : ServerAction} {response : Option Response}
    (effect : ServerEffect contents server action next response) (inv : MutexInv server) :
    MutexInv next := by
  obtain ⟨progress, mover⟩ := inv
  cases effect with
  | closed fd descriptor closing found =>
      refine ⟨?_, mover⟩
      rw [closing] at progress
      simp only [HandlerPc.holdsMutex] at progress
      split <;> simpa [HandlerPc.holdsMutex] using progress
  | signalLost fd signalling awake =>
      rw [signalling] at progress
      exact ⟨by simpa [HandlerPc.holdsMutex] using progress, mover⟩
  | threw filename inCopy =>
      refine ⟨progress, ?_⟩
      rcases inCopy with ⟨made, copying⟩ | writing
      · rw [copying] at mover
        simpa [MoverPc.holdsMutex] using mover
      · rw [writing] at mover
        simpa [MoverPc.holdsMutex] using mover
  | _ => constructor <;> simp_all [HandlerPc.holdsMutex, MoverPc.holdsMutex]

/-! Conservation of the queue. -/

def Conserved (server : Server) : Prop :=
  server.log.handled ++ server.localList ++ server.dataQueue = server.log.pushed

theorem ServerEffect.conserved {action : ServerAction} {response : Option Response}
    (effect : ServerEffect contents server action next response) (conserved : Conserved server) :
    Conserved next := by
  unfold Conserved at conserved ⊢
  cases effect with
  | pushPath fd pushing => simp [← conserved]
  | drained path rest draining queued => simp [← conserved, queued]
  | popped path rest popping front => simp [← conserved, front]
  | _ => exact conserved

def CachedHandled (server : Server) : Prop :=
  ∀ path, (server.pathCacheMap[path]?).isSome →
    (∃ filename, (path, filename) ∈ server.log.copies) ∧
    (path ∈ server.log.handled ∨ (server.mover = .popping ∧ server.localList.head? = some path))

theorem CachedHandled.of_same (cached : CachedHandled server)
    (sameMap : next.pathCacheMap = server.pathCacheMap)
    (sameLog : next.log.copies = server.log.copies)
    (sameHandled : next.log.handled = server.log.handled)
    (working : server.mover ≠ .popping ∨
      (next.mover = server.mover ∧ next.localList = server.localList)) :
    CachedHandled next := by
  intro path present
  rw [sameMap] at present
  obtain ⟨copied, handled⟩ := cached path present
  rw [sameLog, sameHandled]
  refine ⟨copied, ?_⟩
  rcases handled with handled | ⟨popping, front⟩
  · exact Or.inl handled
  · rcases working with working | ⟨sameMover, sameList⟩
    · exact absurd popping working
    · rw [sameMover, sameList]
      exact Or.inr ⟨popping, front⟩

theorem ServerEffect.cachedHandled {action : ServerAction} {response : Option Response}
    (effect : ServerEffect contents server action next response) (cached : CachedHandled server) :
    CachedHandled next := by
  cases effect with
  | copied filename path rest bytes writing front source complete =>
      intro other present
      simp only [Option.isSome_iff_exists] at present
      obtain ⟨target, found⟩ := present
      rcases OrderedMap.found_insert found with ⟨same, _⟩ | ⟨_, old⟩
      · subst other
        exact ⟨⟨filename, by simp⟩, Or.inr ⟨rfl, by simp [front]⟩⟩
      · obtain ⟨⟨name, logged⟩, handled⟩ := cached other (by simp [old])
        refine ⟨⟨name, by simp [logged]⟩, ?_⟩
        exact handled.imp_right fun popping => by simp [writing] at popping
  | popped path rest popping front =>
      intro other present
      obtain ⟨logged, handled⟩ := cached other present
      refine ⟨logged, Or.inl ?_⟩
      rcases handled with handled | ⟨_, first⟩
      · simp [handled]
      · rw [front] at first
        simp only [List.head?_cons, Option.some.injEq] at first
        simp [first]
  | threw filename inCopy =>
      refine cached.of_same rfl rfl rfl (Or.inl ?_)
      rcases inCopy with ⟨made, copying⟩ | writing
      · simp [copying]
      · simp [writing]
  | signalled fd before signalling waiting => exact cached.of_same rfl rfl rfl (by simp [waiting])
  | moverLock top free => exact cached.of_same rfl rfl rfl (by simp [top])
  | moverWait locked => exact cached.of_same rfl rfl rfl (by simp [locked])
  | moverWake signalled waiting free => exact cached.of_same rfl rfl rfl (by simp [waiting])
  | drained path rest draining queued => exact cached.of_same rfl rfl rfl (by simp [draining])
  | drainEnd draining empty => exact cached.of_same rfl rfl rfl (by simp [draining])
  | moverRest looping empty => exact cached.of_same rfl rfl rfl (by simp [looping])
  | madeDir dirpath path rest looping front newDir absent =>
      exact cached.of_same rfl rfl rfl (by simp [looping])
  | noDir dirpath path rest looping front => exact cached.of_same rfl rfl rfl (by simp [looping])
  | created filename path rest copying front source absent =>
      exact cached.of_same rfl rfl rfl (by simp [copying])
  | _ => exact cached.of_same rfl rfl rfl (Or.inr ⟨rfl, rfl⟩)

/-- A step never drops a key of the map, and adds one only when `fs::copy` has just
returned with a complete copy of the path at the front of the mover's list. -/
def KeysGrow (contents : String → Option Bytes) (server : Server) (action : ServerAction)
    (next : Server) : Prop :=
  ∀ path, ((server.pathCacheMap[path]?).isSome → (next.pathCacheMap[path]?).isSome) ∧
    ((next.pathCacheMap[path]?).isSome → (server.pathCacheMap[path]?).isNone →
      action = .moverCopied ∧ server.localList.head? = some path ∧
      ∃ filename bytes, server.mover = .writing filename ∧ contents path = some bytes ∧
        server.nvme[filename]? = some bytes)

theorem ServerEffect.keysGrow {action : ServerAction} {response : Option Response}
    (effect : ServerEffect contents server action next response) :
    KeysGrow contents server action next := by
  intro path
  cases effect with
  | copied filename front rest bytes writing first source complete =>
      constructor
      · intro present
        rw [OrderedMap.getElem?_insert_ite]
        split
        · rfl
        · exact present
      · intro present absent
        obtain ⟨target, found⟩ := Option.isSome_iff_exists.mp present
        rcases OrderedMap.found_insert found with ⟨same, _⟩ | ⟨_, old⟩
        · subst path
          exact ⟨rfl, by simp [first], filename, bytes, writing, source, complete⟩
        · simp [old] at absent
  | _ =>
      refine ⟨fun present => present, fun present absent => ?_⟩
      simp only [Option.isNone_iff_eq_none] at absent
      simp [absent] at present

/-- At every point of every interleaving the handled paths, the mover's list and the
queue make up the pushed paths in push order, and the map only gains keys, each by a
completed copy of a path the mover handles. -/
theorem mover_queue_conservation (contents : String → Option Bytes) (actions : List ServerAction)
    (server : Server) (ran : run (serverStep contents) Server.initial actions = some server) :
    server.log.handled ++ server.localList ++ server.dataQueue = server.log.pushed ∧
    (∀ path, (server.pathCacheMap[path]?).isSome →
      (∃ filename, (path, filename) ∈ server.log.copies) ∧
      (path ∈ server.log.handled ∨
        (server.mover = .popping ∧ server.localList.head? = some path))) ∧
    ∀ action next, serverStep contents server action = some next →
      KeysGrow contents server action next := by
  have preserved : ∀ before action after, Conserved before ∧ CachedHandled before →
      serverStep contents before action = some after → Conserved after ∧ CachedHandled after := by
    intro before action after ⟨conserved, cached⟩ stepped
    obtain ⟨response, effect⟩ := serverStep_effect stepped
    exact ⟨effect.conserved conserved, effect.cachedHandled cached⟩
  have initial : Conserved Server.initial ∧ CachedHandled Server.initial := by
    refine ⟨rfl, ?_⟩
    intro path present
    simp [Server.initial] at present
  obtain ⟨conserved, cached⟩ := run_invariant preserved initial ran
  refine ⟨conserved, cached, ?_⟩
  intro action next stepped
  obtain ⟨response, effect⟩ := serverStep_effect stepped
  exact effect.keysGrow

def oneFile (path : String) : Option Bytes :=
  if path = "/d/f" then some [1, 2, 3] else none

def openClose (client : Nat) (fd : Int) : List ServerAction := [
  .accept (.openRpc { client, callback := .openCb 3 } "/d/f"), .redirect, .openFile fd,
  .accept (.closeRpc fd), .closeFd, .lockQueue, .signalMover, .pushPath, .unlockQueue, .erasePath
]

def copyFront (dirpath : String) : List ServerAction :=
  [.moverMakeDir dirpath true, .moverCreate, .moverWrite 2, .moverWrite 2, .moverCopied, .moverPop]

def closeThenCache : List ServerAction :=
  [.moverLock, .moverWait] ++ openClose 0 5 ++ [.moverWake, .moverDrain, .moverDrain] ++
    copyFront "/bb/AAA" ++ [.moverRest]

theorem mover_queue_conservation_closeThenCache : ∃ server,
    run (serverStep oneFile) Server.initial closeThenCache = some server ∧
      server.log.pushed = ["/d/f"] ∧
      server.log.handled ++ server.localList ++ server.dataQueue = ["/d/f"] := by
  have reached : (run (serverStep oneFile) Server.initial closeThenCache).map
      (fun server => server.log.pushed) = some ["/d/f"] := by decide
  obtain ⟨server, ran, pushed⟩ := Option.map_eq_some_iff.mp reached
  refine ⟨server, ran, pushed, ?_⟩
  rw [← pushed]
  exact (mover_queue_conservation oneFile closeThenCache server ran).1

/-! Lost signals. -/

/-- The close handler signals only while the mover is blocked in `pthread_cond_wait`. -/
def SignalHeard (server : Server) (action : ServerAction) : Prop :=
  action = .signalMover → server.mover = .waiting false ∨ server.mover = .waiting true

instance (server : Server) (action : ServerAction) : Decidable (SignalHeard server action) :=
  inferInstanceAs (Decidable (_ → _))

def Stranded (server : Server) : Prop :=
  server.mover = .waiting false ∧ server.dataQueue ≠ []

structure HeardInv (server : Server) : Prop where
  mutex : MutexInv server
  pushing : ∀ fd, server.handler = .closePush fd → server.mover = .waiting true
  queued : server.dataQueue ≠ [] → server.mover = .waiting true ∨ server.mover = .draining

theorem heardInv_initial : HeardInv Server.initial := by
  refine ⟨mutexInv_initial, ?_, ?_⟩
  · intro fd pushing
    simp [Server.initial] at pushing
  · intro queued
    simp [Server.initial] at queued

theorem HeardInv.quiet (inv : HeardInv server) (awake : server.mover ≠ .waiting true)
    (working : server.mover ≠ .draining) :
    (∀ fd, server.handler ≠ .closePush fd) ∧ server.dataQueue = [] := by
  refine ⟨fun fd pushing => awake (inv.pushing fd pushing), ?_⟩
  by_contra queued
  exact (inv.queued queued).elim awake working

theorem HeardInv.of_handler (inv : HeardInv server) (mutex : MutexInv next)
    (notPushing : ∀ fd, next.handler ≠ .closePush fd) (sameMover : next.mover = server.mover)
    (sameQueue : next.dataQueue = server.dataQueue) : HeardInv next := by
  refine ⟨mutex, fun fd pushing => absurd pushing (notPushing fd), ?_⟩
  rw [sameMover, sameQueue]
  exact inv.queued

theorem HeardInv.of_mover (inv : HeardInv server) (mutex : MutexInv next)
    (awake : server.mover ≠ .waiting true) (working : server.mover ≠ .draining)
    (sameHandler : next.handler = server.handler)
    (sameQueue : next.dataQueue = server.dataQueue) : HeardInv next := by
  obtain ⟨notPushing, empty⟩ := inv.quiet awake working
  refine ⟨mutex, fun fd pushing => absurd (sameHandler.symm.trans pushing) (notPushing fd), ?_⟩
  intro queued
  exact absurd (sameQueue.trans empty) queued

theorem ServerEffect.heardInv {action : ServerAction} {response : Option Response}
    (effect : ServerEffect contents server action next response)
    (heard : SignalHeard server action) (inv : HeardInv server) : HeardInv next := by
  have mutex := effect.mutexInv inv.mutex
  cases effect with
  | signalled fd before signalling waiting =>
      exact ⟨mutex, fun _ _ => rfl, fun _ => Or.inl rfl⟩
  | signalLost fd signalling awake =>
      exact (heard rfl).elim (fun waiting => absurd waiting (awake false))
        fun waiting => absurd waiting (awake true)
  | pushPath fd pushing =>
      have waiting := inv.pushing fd pushing
      exact ⟨mutex, fun _ other => by simp at other, fun _ => Or.inl waiting⟩
  | moverWake signalled waiting free =>
      refine ⟨mutex, ?_, fun _ => Or.inr rfl⟩
      intro fd pushing
      have holds : server.handler.holdsMutex = true := by
        simp only at pushing
        simp [pushing, HandlerPc.holdsMutex]
      simp [inv.mutex.progress.mp holds] at free
  | drained path rest draining queued =>
      exact ⟨mutex, inv.pushing, fun _ => Or.inr draining⟩
  | drainEnd draining empty =>
      refine ⟨mutex, ?_, fun queued => absurd empty queued⟩
      intro fd pushing
      have waiting := inv.pushing fd pushing
      simp [draining] at waiting
  | closed fd descriptor closing found =>
      refine inv.of_handler mutex ?_ rfl rfl
      intro other pushing
      simp only at pushing
      split at pushing <;> simp at pushing
  | moverLock top free => exact inv.of_mover mutex (by simp [top]) (by simp [top]) rfl rfl
  | moverWait locked => exact inv.of_mover mutex (by simp [locked]) (by simp [locked]) rfl rfl
  | moverRest looping empty =>
      exact inv.of_mover mutex (by simp [looping]) (by simp [looping]) rfl rfl
  | madeDir dirpath path rest looping front newDir absent =>
      exact inv.of_mover mutex (by simp [looping]) (by simp [looping]) rfl rfl
  | noDir dirpath path rest looping front =>
      exact inv.of_mover mutex (by simp [looping]) (by simp [looping]) rfl rfl
  | created filename path rest copying front source absent =>
      exact inv.of_mover mutex (by simp [copying]) (by simp [copying]) rfl rfl
  | wrote filename path rest count bytes written writing front source target =>
      exact inv.of_mover mutex (by simp [writing]) (by simp [writing]) rfl rfl
  | copied filename path rest bytes writing front source complete =>
      exact inv.of_mover mutex (by simp [writing]) (by simp [writing]) rfl rfl
  | threw filename inCopy =>
      rcases inCopy with ⟨made, copying⟩ | writing
      · exact inv.of_mover mutex (by simp [copying]) (by simp [copying]) rfl rfl
      · exact inv.of_mover mutex (by simp [writing]) (by simp [writing]) rfl rfl
  | popped path rest popping front =>
      exact inv.of_mover mutex (by simp [popping]) (by simp [popping]) rfl rfl
  | _ => exact inv.of_handler mutex (by simp) rfl rfl

/-- In every run in which each signal finds the mover waiting, a mover that sleeps
without a signal has nothing queued. -/
theorem heard_not_stranded (contents : String → Option Bytes) (actions : List ServerAction)
    (server : Server) (heard : Meets (serverStep contents) SignalHeard Server.initial actions)
    (ran : run (serverStep contents) Server.initial actions = some server) :
    ¬Stranded server := by
  have preserved : ∀ before action after, HeardInv before → SignalHeard before action →
      serverStep contents before action = some after → HeardInv after := by
    intro before action after inv signal stepped
    obtain ⟨response, effect⟩ := serverStep_effect stepped
    exact effect.heardInv signal inv
  have inv := run_invariant_of_meets preserved heardInv_initial heard ran
  rintro ⟨asleep, queued⟩
  rcases inv.queued queued with signalled | draining
  · simp [asleep] at signalled
  · simp [asleep] at draining

theorem heard_not_stranded_closeThenCache : ∃ server,
    run (serverStep oneFile) Server.initial closeThenCache = some server ∧ ¬Stranded server := by
  have returns : (run (serverStep oneFile) Server.initial closeThenCache).isSome = true := by
    decide
  obtain ⟨server, ran⟩ := Option.isSome_iff_exists.mp returns
  exact ⟨server, ran, heard_not_stranded oneFile closeThenCache server (by decide) ran⟩

def closeBeforeWait : List ServerAction := openClose 0 5 ++ [.moverLock, .moverWait]

theorem close_before_wait_stranded : ∃ server,
    run (serverStep oneFile) Server.initial closeBeforeWait = some server ∧
      server.mover = .waiting false ∧ server.dataQueue = ["/d/f"] ∧ Stranded server := by
  have reached : (run (serverStep oneFile) Server.initial closeBeforeWait).map
      (fun server => (server.mover, server.dataQueue)) =
      some (.waiting false, ["/d/f"]) := by decide
  obtain ⟨server, ran, facts⟩ := Option.map_eq_some_iff.mp reached
  simp only [Prod.mk.injEq] at facts
  obtain ⟨asleep, queued⟩ := facts
  exact ⟨server, ran, asleep, queued, asleep, by simp [queued]⟩

/-! Repeated copies. -/

def Server.closing (server : Server) : List String :=
  match server.handler with
  | .closeLock fd => [(OrderedMap.index server.fdToPath fd).1]
  | .closeSignal fd => [(OrderedMap.index server.fdToPath fd).1]
  | .closePush fd => [(OrderedMap.index server.fdToPath fd).1]
  | _ => []

def Server.pending (server : Server) : List String :=
  (if server.mover = .popping then server.localList.tail else server.localList) ++ server.dataQueue

/-- A file that is not cached is closed only when no earlier close of the same path is
waiting for its copy. -/
def NotPending (server : Server) (action : ServerAction) : Prop :=
  match server.handler with
  | .closeRpc fd =>
      action = .closeFd → server.pathCacheMap[(OrderedMap.index server.fdToPath fd).1]? = none →
        (OrderedMap.index server.fdToPath fd).1 ∉ server.pending
  | _ => True

instance (server : Server) (action : ServerAction) : Decidable (NotPending server action) := by
  unfold NotPending
  split <;> infer_instance

def CopiedOnce (server : Server) : Prop :=
  (server.log.copies.map Prod.fst).Nodup ∧
  server.log.copies.length = server.pathCacheMap.size ∧
  ∀ copy ∈ server.log.copies, server.pathCacheMap[copy.1]? = some copy.2

structure OnceInv (server : Server) : Prop where
  distinct : (server.closing ++ server.pending).Nodup
  uncached : ∀ path ∈ server.closing ++ server.pending, server.pathCacheMap[path]? = none
  once : (server.log.copies.map Prod.fst).Nodup
  mapped : ∀ copy, copy ∈ server.log.copies ↔ server.pathCacheMap[copy.1]? = some copy.2

theorem onceInv_initial : OnceInv Server.initial := by
  constructor <;> simp [Server.initial, Server.closing, Server.pending]

theorem OnceInv.copiedOnce (inv : OnceInv server) : CopiedOnce server := by
  have same : server.log.copies.Perm server.pathCacheMap.toList := by
    rw [List.perm_ext_iff_of_nodup (List.Nodup.of_map Prod.fst inv.once)
      (OrderedMap.nodup_toList server.pathCacheMap)]
    rintro ⟨path, filename⟩
    rw [inv.mapped, Std.ExtTreeMap.mem_toList_iff_getElem?_eq_some]
  refine ⟨inv.once, ?_, fun copy made => (inv.mapped copy).mp made⟩
  rw [same.length_eq, Std.ExtTreeMap.length_toList]

theorem OnceInv.of_perm (inv : OnceInv server) (dropped : List String)
    (waiting : (server.closing ++ server.pending).Perm (dropped ++ (next.closing ++ next.pending)))
    (sameMap : next.pathCacheMap = server.pathCacheMap)
    (sameCopies : next.log.copies = server.log.copies) : OnceInv next := by
  have distinct := waiting.nodup_iff.mp inv.distinct
  refine ⟨(List.nodup_append.mp distinct).2.1, ?_, ?_, ?_⟩
  · intro path member
    rw [sameMap]
    exact inv.uncached path (waiting.mem_iff.mpr (by simp only [List.mem_append] at member ⊢; tauto))
  · rw [sameCopies]
    exact inv.once
  · rw [sameMap, sameCopies]
    exact inv.mapped

theorem OnceInv.of_same (inv : OnceInv server) (sameClosing : next.closing = server.closing)
    (samePending : next.pending = server.pending)
    (sameMap : next.pathCacheMap = server.pathCacheMap)
    (sameCopies : next.log.copies = server.log.copies) : OnceInv next := by
  refine inv.of_perm [] ?_ sameMap sameCopies
  rw [sameClosing, samePending]
  exact List.Perm.refl _

theorem pending_of_working (working : server.mover ≠ .popping) :
    server.pending = server.localList ++ server.dataQueue := by
  simp [Server.pending, working]

theorem OnceInv.close (inv : OnceInv server) {path : String} (noneClosing : server.closing = [])
    (absent : server.pathCacheMap[path]? = none) (fresh : path ∉ server.pending)
    (closing : next.closing = [path]) (samePending : next.pending = server.pending)
    (sameMap : next.pathCacheMap = server.pathCacheMap)
    (sameCopies : next.log.copies = server.log.copies) : OnceInv next := by
  have distinct := inv.distinct
  have uncached := inv.uncached
  rw [noneClosing, List.nil_append] at distinct uncached
  refine ⟨?_, ?_, sameCopies ▸ inv.once, by rw [sameMap, sameCopies]; exact inv.mapped⟩
  · rw [closing, samePending]
    exact List.nodup_cons.mpr ⟨fresh, distinct⟩
  · rw [closing, samePending, sameMap]
    intro other member
    rcases List.mem_cons.mp member with same | waiting
    · exact same ▸ absent
    · exact uncached other waiting

theorem OnceInv.copy (inv : OnceInv server) {path filename : String} {rest : List String}
    (writing : server.mover = .writing filename) (front : server.localList = path :: rest) :
    OnceInv { server with
      mover := .popping
      pathCacheMap := server.pathCacheMap.insert path filename
      log := { server.log with copies := server.log.copies ++ [(path, filename)] } } := by
  have pending : server.pending = path :: (rest ++ server.dataQueue) := by
    rw [pending_of_working (by simp [writing]), front, List.cons_append]
  have absent := inv.uncached path (by simp [pending])
  have middle : (path :: (server.closing ++ (rest ++ server.dataQueue))).Nodup := by
    have distinct := inv.distinct
    rw [pending] at distinct
    exact List.perm_middle.nodup_iff.mp distinct
  obtain ⟨fresh, distinct⟩ := List.nodup_cons.mp middle
  have unmade : path ∉ server.log.copies.map Prod.fst := by
    intro made
    obtain ⟨copy, member, same⟩ := List.mem_map.mp made
    have held := (inv.mapped copy).mp member
    rw [same, absent] at held
    simp at held
  refine ⟨?_, ?_, ?_, ?_⟩
  · simpa [Server.closing, Server.pending, front] using distinct
  · intro other member
    have waiting : other ∈ server.closing ++ (rest ++ server.dataQueue) := by
      simpa [Server.closing, Server.pending, front] using member
    have different : path ≠ other := fun same => fresh (same ▸ waiting)
    rw [OrderedMap.getElem?_insert_ite, if_neg different]
    refine inv.uncached other ?_
    rw [pending]
    exact List.perm_middle.mem_iff.mpr (List.mem_cons_of_mem _ waiting)
  · simp only [List.map_append, List.map_cons, List.map_nil]
    exact List.nodup_append.mpr ⟨inv.once, by simp, by
      intro first firstMember second secondMember same
      simp only [List.mem_singleton] at secondMember
      exact unmade (secondMember ▸ same ▸ firstMember)⟩
  · rintro ⟨original, target⟩
    simp only [List.mem_append, List.mem_singleton, inv.mapped, Prod.mk.injEq,
      OrderedMap.getElem?_insert_ite]
    by_cases same : path = original
    · subst original
      simp [absent, eq_comm]
    · simp [same, Ne.symm same]

theorem ServerEffect.onceInv {action : ServerAction} {response : Option Response}
    (effect : ServerEffect contents server action next response)
    (guarded : NotPending server action) (inv : OnceInv server) : OnceInv next := by
  cases effect with
  | closed fd descriptor closing found =>
      have noneClosing : server.closing = [] := by simp [Server.closing, closing]
      by_cases cached : (server.pathCacheMap[(OrderedMap.index server.fdToPath fd).1]?).isNone
      · have absent := Option.isNone_iff_eq_none.mp cached
        simp only [NotPending, closing] at guarded
        refine inv.close noneClosing absent (guarded trivial absent) ?_ rfl rfl rfl
        simp [Server.closing, cached, OrderedMap.index_index]
      · refine inv.of_same ?_ rfl rfl rfl
        rw [noneClosing]
        simp [Server.closing, cached]
  | copied filename path rest bytes writing front source complete => exact inv.copy writing front
  | threw filename inCopy =>
      have working : server.mover ≠ .popping := by
        rcases inCopy with ⟨made, copying⟩ | writing
        · simp [copying]
        · simp [writing]
      have pending := pending_of_working working
      cases front : server.localList with
      | nil =>
          refine inv.of_same rfl ?_ rfl rfl
          rw [pending]
          simp [Server.pending, front]
      | cons path rest =>
          refine inv.of_perm [path] ?_ rfl rfl
          rw [pending, front]
          simp [Server.closing, Server.pending]
  | pushPath fd pushing =>
      refine inv.of_perm [] ?_ rfl rfl
      simp only [Server.closing, Server.pending, pushing, List.nil_append]
      rw [← List.append_assoc _ server.dataQueue]
      exact List.perm_append_comm
  | drained path rest draining queued =>
      exact inv.of_same rfl (by simp [Server.pending, draining, queued]) rfl rfl
  | popped path rest popping front =>
      exact inv.of_same rfl (by simp [Server.pending, popping, front]) rfl rfl
  | _ => exact inv.of_same (by simp [Server.closing, *]) (by simp [Server.pending, *]) rfl rfl

/-- In every run in which no file is closed while its path waits for a copy, each path
is copied at most once and the map holds every copy. -/
theorem not_pending_copied_once (contents : String → Option Bytes) (actions : List ServerAction)
    (server : Server) (fresh : Meets (serverStep contents) NotPending Server.initial actions)
    (ran : run (serverStep contents) Server.initial actions = some server) :
    CopiedOnce server := by
  have preserved : ∀ before action after, OnceInv before → NotPending before action →
      serverStep contents before action = some after → OnceInv after := by
    intro before action after inv guarded stepped
    obtain ⟨response, effect⟩ := serverStep_effect stepped
    exact effect.onceInv guarded inv
  exact (run_invariant_of_meets preserved onceInv_initial fresh ran).copiedOnce

theorem not_pending_copied_once_closeThenCache : ∃ server,
    run (serverStep oneFile) Server.initial closeThenCache = some server ∧
      server.log.copies = [("/d/f", "/bb/AAA/f")] ∧ CopiedOnce server := by
  have reached : (run (serverStep oneFile) Server.initial closeThenCache).map
      (fun server => server.log.copies) = some [("/d/f", "/bb/AAA/f")] := by decide
  obtain ⟨server, ran, copies⟩ := Option.map_eq_some_iff.mp reached
  exact ⟨server, ran, copies,
    not_pending_copied_once oneFile closeThenCache server (by decide) ran⟩

def closeTwice : List ServerAction :=
  [.moverLock, .moverWait] ++ openClose 0 5 ++ openClose 1 5 ++
    [.moverWake, .moverDrain, .moverDrain, .moverDrain] ++
    copyFront "/bb/AAA" ++ copyFront "/bb/BBB"

theorem close_twice_orphans_copy : ∃ server,
    run (serverStep oneFile) Server.initial closeTwice = some server ∧
      server.log.copies = [("/d/f", "/bb/AAA/f"), ("/d/f", "/bb/BBB/f")] ∧
      server.pathCacheMap.size = 1 ∧ ¬CopiedOnce server := by
  have reached : (run (serverStep oneFile) Server.initial closeTwice).map
      (fun server => (server.log.copies, server.pathCacheMap.size)) =
      some ([("/d/f", "/bb/AAA/f"), ("/d/f", "/bb/BBB/f")], 1) := by decide
  obtain ⟨server, ran, facts⟩ := Option.map_eq_some_iff.mp reached
  simp only [Prod.mk.injEq] at facts
  obtain ⟨copies, keys⟩ := facts
  refine ⟨server, ran, copies, keys, ?_⟩
  rintro ⟨_, counted, _⟩
  rw [copies, keys] at counted
  simp at counted

end

end HvacCache
