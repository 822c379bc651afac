import Mathlib.Data.List.TakeWhile
import HvacCache.DataMover

/-! The redirection map and the descriptors of a server. Whatever the map points at is
a finished copy, and every open descriptor shows the file it is recorded under. -/

namespace HvacCache

open Posix Transition

section
variable {contents : String → Option Bytes} {server next : Server}

/-! Names of copies. -/

theorem separator_notMem_fileName (path : String) : '/' ∉ (fileName path).toList := by
  simp only [fileName, String.toList_ofList, List.mem_reverse]
  intro member
  have passed := List.mem_takeWhile_imp member
  simp at passed

theorem fileName_copyTarget (dirpath path : String) :
    fileName (copyTarget dirpath path) = fileName path := by
  have passes : ∀ letter ∈ (fileName path).toList.reverse, decide (letter ≠ '/') = true := by
    intro letter member
    simp only [decide_eq_true_eq]
    intro same
    exact separator_notMem_fileName path (same ▸ List.mem_reverse.mp member)
  have spelled : (copyTarget dirpath path).toList.reverse =
      (fileName path).toList.reverse ++ '/' :: dirpath.toList.reverse := by
    simp [copyTarget]
  conv_lhs => unfold fileName
  rw [spelled, List.takeWhile_append_of_pos passes]
  simp

theorem copyTarget_injective {first second path other : String}
    (same : copyTarget first path = copyTarget second other) : first = second := by
  have names : fileName path = fileName other := by
    rw [← fileName_copyTarget first path, same, fileName_copyTarget]
  have spelled := congrArg String.toList same
  simp only [copyTarget, String.toList_append, names] at spelled
  exact String.toList_inj.mp (List.append_cancel_right (List.append_cancel_right spelled))

/-! The node-local store. -/

/-- Every copy the mover finished is whole and has a target of its own, which is not
the one being written. -/
structure StoreInv (contents : String → Option Bytes) (server : Server) : Prop where
  placed : ∀ (filename : String) (bytes : Bytes), server.nvme[filename]? = some bytes →
    contents filename = none ∧ ∃ dirpath ∈ server.dirs, ∃ path, filename = copyTarget dirpath path
  complete : ∀ path filename, (path, filename) ∈ server.log.copies →
    ∃ bytes, contents path = some bytes ∧ server.nvme[filename]? = some bytes
  distinct : ∀ first second filename, (first, filename) ∈ server.log.copies →
    (second, filename) ∈ server.log.copies → first = second
  mapped : ∀ (path filename : String), server.pathCacheMap[path]? = some filename →
    (path, filename) ∈ server.log.copies
  target : ∀ filename, server.mover = .copying filename true →
    contents filename = none ∧ server.nvme[filename]? = none ∧
      ∃ dirpath ∈ server.dirs, ∃ path, filename = copyTarget dirpath path
  unfinished : ∀ filename, server.mover = .writing filename →
    (server.nvme[filename]?).isSome ∧ ∀ path, (path, filename) ∉ server.log.copies

theorem storeInv_initial : StoreInv contents Server.initial := by
  constructor <;> simp [Server.initial]

def MoverPc.inCopy : MoverPc → Bool
  | .copying _ made => made
  | .writing _ => true
  | _ => false

theorem StoreInv.of_same (inv : StoreInv contents server) (sameStore : next.nvme = server.nvme)
    (sameDirs : next.dirs = server.dirs) (sameCopies : next.log.copies = server.log.copies)
    (sameMap : next.pathCacheMap = server.pathCacheMap)
    (idle : next.mover = server.mover ∨ next.mover.inCopy = false) : StoreInv contents next := by
  refine ⟨?_, ?_, ?_, ?_, ?_, ?_⟩
  · rw [sameStore, sameDirs]
    exact inv.placed
  · rw [sameStore, sameCopies]
    exact inv.complete
  · rw [sameCopies]
    exact inv.distinct
  · rw [sameMap, sameCopies]
    exact inv.mapped
  · intro filename copying
    rcases idle with sameMover | outside
    · rw [sameStore, sameDirs]
      exact inv.target filename (sameMover ▸ copying)
    · simp [copying, MoverPc.inCopy] at outside
  · intro filename writing
    rcases idle with sameMover | outside
    · rw [sameStore, sameCopies]
      exact inv.unfinished filename (sameMover ▸ writing)
    · simp [writing, MoverPc.inCopy] at outside

theorem StoreInv.madeDir (inv : StoreInv contents server) {dirpath path : String}
    (newDir : dirpath ∉ server.dirs) (absent : contents (copyTarget dirpath path) = none) :
    StoreInv contents { server with
      mover := .copying (copyTarget dirpath path) true
      dirs := dirpath :: server.dirs } := by
  refine ⟨?_, inv.complete, inv.distinct, inv.mapped, ?_, ?_⟩
  · intro filename bytes stored
    obtain ⟨offShared, directory, known, original, named⟩ := inv.placed filename bytes stored
    exact ⟨offShared, directory, List.mem_cons_of_mem _ known, original, named⟩
  · intro filename copying
    simp only [MoverPc.copying.injEq, and_true] at copying
    subst filename
    refine ⟨absent, ?_, dirpath, List.mem_cons_self, path, rfl⟩
    by_contra stored
    obtain ⟨bytes, found⟩ := Option.ne_none_iff_exists'.mp stored
    obtain ⟨_, directory, known, original, named⟩ := inv.placed _ bytes found
    exact newDir (copyTarget_injective named ▸ known)
  · intro filename writing
    simp at writing

theorem StoreInv.created (inv : StoreInv contents server) {filename : String}
    (copying : server.mover = .copying filename true) :
    StoreInv contents { server with
      mover := .writing filename
      nvme := server.nvme.insert filename [] } := by
  obtain ⟨offShared, absent, located⟩ := inv.target filename copying
  have uncopied : ∀ path, (path, filename) ∉ server.log.copies := by
    intro path member
    obtain ⟨bytes, _, stored⟩ := inv.complete path filename member
    simp [absent] at stored
  refine ⟨?_, ?_, inv.distinct, inv.mapped, ?_, ?_⟩
  · intro other bytes stored
    rcases OrderedMap.found_insert stored with ⟨same, _⟩ | ⟨_, old⟩
    · subst other
      exact ⟨offShared, located⟩
    · exact inv.placed other bytes old
  · intro path other member
    obtain ⟨bytes, source, stored⟩ := inv.complete path other member
    refine ⟨bytes, source, ?_⟩
    have different : filename ≠ other := fun same => uncopied path (same ▸ member)
    rw [OrderedMap.getElem?_insert_ite, if_neg different]
    exact stored
  · intro other copyingOther
    simp at copyingOther
  · intro other writing
    simp only [MoverPc.writing.injEq] at writing
    subst other
    exact ⟨by simp, uncopied⟩

theorem StoreInv.wrote (inv : StoreInv contents server) {filename : String} (bytes : Bytes)
    (writing : server.mover = .writing filename) :
    StoreInv contents { server with nvme := server.nvme.insert filename bytes } := by
  obtain ⟨present, uncopied⟩ := inv.unfinished filename writing
  obtain ⟨written, stored⟩ := Option.isSome_iff_exists.mp present
  refine ⟨?_, ?_, inv.distinct, inv.mapped, ?_, ?_⟩
  · intro other data found
    rcases OrderedMap.found_insert found with ⟨same, _⟩ | ⟨_, old⟩
    · exact same ▸ inv.placed filename written stored
    · exact inv.placed other data old
  · intro path other member
    obtain ⟨data, source, found⟩ := inv.complete path other member
    refine ⟨data, source, ?_⟩
    have different : filename ≠ other := fun same => uncopied path (same ▸ member)
    rw [OrderedMap.getElem?_insert_ite, if_neg different]
    exact found
  · intro other copying
    simp [writing] at copying
  · intro other writingOther
    simp only [writing, MoverPc.writing.injEq] at writingOther
    subst other
    exact ⟨by simp, uncopied⟩

theorem StoreInv.copied (inv : StoreInv contents server) {filename path : String} {bytes : Bytes}
    (writing : server.mover = .writing filename) (source : contents path = some bytes)
    (stored : server.nvme[filename]? = some bytes) :
    StoreInv contents { server with
      mover := .popping
      pathCacheMap := server.pathCacheMap.insert path filename
      log := { server.log with copies := server.log.copies ++ [(path, filename)] } } := by
  obtain ⟨_, uncopied⟩ := inv.unfinished filename writing
  refine ⟨inv.placed, ?_, ?_, ?_, ?_, ?_⟩
  · intro original other member
    simp only [List.mem_append, List.mem_singleton, Prod.mk.injEq] at member
    rcases member with old | ⟨samePath, sameName⟩
    · exact inv.complete original other old
    · exact ⟨bytes, samePath ▸ source, sameName ▸ stored⟩
  · intro first second other firstMember secondMember
    simp only [List.mem_append, List.mem_singleton, Prod.mk.injEq] at firstMember secondMember
    rcases firstMember with firstOld | ⟨firstPath, firstName⟩
    · rcases secondMember with secondOld | ⟨_, secondName⟩
      · exact inv.distinct first second other firstOld secondOld
      · exact absurd (secondName ▸ firstOld) (uncopied first)
    · rcases secondMember with secondOld | ⟨secondPath, _⟩
      · exact absurd (firstName ▸ secondOld) (uncopied second)
      · rw [firstPath, secondPath]
  · intro original other found
    rcases OrderedMap.found_insert found with ⟨samePath, sameName⟩ | ⟨_, old⟩
    · simp [samePath, sameName]
    · exact List.mem_append_left _ (inv.mapped original other old)
  · intro other copying
    simp at copying
  · intro other writingOther
    simp at writingOther

theorem ServerEffect.storeInv {action : ServerAction} {response : Option Response}
    (effect : ServerEffect contents server action next response) (inv : StoreInv contents server) :
    StoreInv contents next := by
  cases effect with
  | madeDir dirpath path rest looping front newDir absent => exact inv.madeDir newDir absent
  | created filename path rest copying front source absent => exact inv.created copying
  | wrote filename path rest count bytes written writing front source target =>
      exact inv.wrote _ writing
  | copied filename path rest bytes writing front source complete =>
      exact inv.copied writing source complete
  | _ => exact inv.of_same rfl rfl rfl rfl (by simp [MoverPc.inCopy])

/-! The descriptors. -/

/-- What the server opens for `path`: the file itself or a finished copy of it. -/
def Server.Serves (server : Server) (path file : String) : Prop :=
  file = path ∨ (path, file) ∈ server.log.copies

def HandlerPc.closed? : HandlerPc → Option Int
  | .closeLock fd => some fd
  | .closeSignal fd => some fd
  | .closePush fd => some fd
  | .closeUnlock fd => some fd
  | .closeErase fd => some fd
  | _ => none

structure DescriptorInv (server : Server) : Prop where
  recorded : ∀ (fd : Int) (descriptor : Descriptor), server.kernel[fd]? = some descriptor →
    0 ≤ fd ∧ descriptor.mode = .readOnly ∧
      ∃ path, server.fdToPath[fd]? = some path ∧ server.Serves path descriptor.file
  redirected : ∀ handle path redirPath, server.handler = .openRedirected handle path redirPath →
    server.Serves path redirPath
  forgetting : ∀ fd, server.handler.closed? = some fd →
    server.kernel[fd]? = none ∧ ∃ path, server.fdToPath[fd]? = some path

theorem descriptorInv_initial : DescriptorInv Server.initial := by
  constructor <;> simp [Server.initial, HandlerPc.closed?]

theorem DescriptorInv.of_same (inv : DescriptorInv server) (sameKernel : next.kernel = server.kernel)
    (samePaths : next.fdToPath = server.fdToPath)
    (kept : ∀ copy ∈ server.log.copies, copy ∈ next.log.copies)
    (handler : next.handler = server.handler ∨
      (next.handler.closed? = none ∨ next.handler.closed? = server.handler.closed?) ∧
        ∀ handle path redirPath, next.handler = .openRedirected handle path redirPath →
          next.Serves path redirPath) : DescriptorInv next := by
  refine ⟨?_, ?_, ?_⟩
  · intro fd descriptor found
    rw [sameKernel] at found
    obtain ⟨lower, mode, path, recorded, serves⟩ := inv.recorded fd descriptor found
    exact ⟨lower, mode, path, samePaths ▸ recorded, serves.imp_right (kept _)⟩
  · intro handle path redirPath opening
    rcases handler with same | ⟨_, serves⟩
    · exact (inv.redirected handle path redirPath (same ▸ opening)).imp_right (kept _)
    · exact serves handle path redirPath opening
  · intro fd closing
    rw [sameKernel, samePaths]
    rcases handler with same | ⟨outside | same, _⟩
    · exact inv.forgetting fd (same ▸ closing)
    · simp [outside] at closing
    · exact inv.forgetting fd (same ▸ closing)

theorem handlerRead_sameFiles (contents : String → Option Bytes) (server : Server)
    (failure : Bool) (accessfd : Int) (size : Nat) (offset : Int) :
    SameFiles server.kernel (handlerRead contents server failure accessfd size offset).2 := by
  unfold handlerRead
  split
  · exact SameFiles.refl _
  · split
    · exact read_sameFiles _ _ _ _
    · exact SameFiles.refl _

theorem DescriptorInv.handlerRead (inv : DescriptorInv server) {failure : Bool}
    {accessfd offset : Int} {size : Nat} {outcome : ReadResult × Table} {handler : HandlerPc}
    (result : handlerRead contents server failure accessfd size offset = outcome)
    (ended : handler = .idle ∨ handler = .aborted) :
    DescriptorInv { server with kernel := outcome.2, handler } := by
  refine ⟨?_, ?_, ?_⟩
  · intro fd descriptor found
    subst outcome
    have same := handlerRead_sameFiles contents server failure accessfd size offset
    obtain ⟨before, opened, file, mode⟩ := same.symm.found found
    rw [← file, ← mode]
    exact inv.recorded fd before opened
  · intro handle path redirPath opening
    rcases ended with ended | ended <;> simp [ended] at opening
  · intro fd closing
    rcases ended with ended | ended <;> simp [ended, HandlerPc.closed?] at closing

theorem DescriptorInv.opened (inv : DescriptorInv server) {handle : Handle} {path redirPath : String}
    {fd : Int} (opening : server.handler = .openRedirected handle path redirPath)
    (lower : 0 ≤ fd) :
    DescriptorInv { server with
      kernel := server.kernel.insert fd { file := redirPath, mode := .readOnly, position := 0 }
      fdToPath := server.fdToPath.insert fd path
      handler := .idle } := by
  refine ⟨?_, by simp, by simp [HandlerPc.closed?]⟩
  intro other descriptor found
  rcases OrderedMap.found_insert found with ⟨same, stored⟩ | ⟨different, old⟩
  · subst other descriptor
    exact ⟨lower, rfl, path, by simp, inv.redirected handle path redirPath opening⟩
  · obtain ⟨otherLower, mode, original, recorded, serves⟩ := inv.recorded other descriptor old
    refine ⟨otherLower, mode, original, ?_, serves⟩
    rw [OrderedMap.getElem?_insert_ite, if_neg (Ne.symm different)]
    exact recorded

theorem DescriptorInv.openFailed (inv : DescriptorInv server) (path : String) :
    DescriptorInv { server with
      fdToPath := server.fdToPath.insert (-1) path
      handler := .idle } := by
  refine ⟨?_, by simp, by simp [HandlerPc.closed?]⟩
  intro fd descriptor found
  obtain ⟨lower, mode, original, recorded, serves⟩ := inv.recorded fd descriptor found
  refine ⟨lower, mode, original, ?_, serves⟩
  rw [OrderedMap.getElem?_insert_ite, if_neg (by omega)]
  exact recorded

theorem DescriptorInv.closed (inv : DescriptorInv server) {fd : Int} {descriptor : Descriptor}
    {handler : HandlerPc} (found : server.kernel[fd]? = some descriptor)
    (closing : handler = .closeLock fd ∨ handler = .closeErase fd) :
    DescriptorInv { server with
      kernel := server.kernel.erase fd
      fdToPath := (OrderedMap.index server.fdToPath fd).2
      handler } := by
  obtain ⟨_, _, path, recorded, _⟩ := inv.recorded fd descriptor found
  rw [OrderedMap.index_of_some recorded]
  refine ⟨?_, ?_, ?_⟩
  · intro other opened stored
    exact inv.recorded other opened (OrderedMap.found_erase stored).2
  · intro handle original redirPath opening
    rcases closing with closing | closing <;> simp [closing] at opening
  · intro other closed
    have same : other = fd := by
      rcases closing with closing | closing <;>
        simpa [closing, HandlerPc.closed?, eq_comm] using closed
    subst other
    exact ⟨by simp, path, recorded⟩

theorem DescriptorInv.erased (inv : DescriptorInv server) {fd : Int}
    (erasing : server.handler = .closeErase fd) :
    DescriptorInv { server with handler := .idle, fdToPath := server.fdToPath.erase fd } := by
  refine ⟨?_, by simp, by simp [HandlerPc.closed?]⟩
  intro other descriptor found
  obtain ⟨lower, mode, path, recorded, serves⟩ := inv.recorded other descriptor found
  refine ⟨lower, mode, path, ?_, serves⟩
  have different : fd ≠ other := by
    intro same
    subst other
    obtain ⟨missing, _⟩ := inv.forgetting fd (by simp [erasing, HandlerPc.closed?])
    simp [missing] at found
  rw [OrderedMap.getElem?_erase_ite, if_neg different]
  exact recorded

theorem ServerEffect.descriptorInv {action : ServerAction} {response : Option Response}
    (effect : ServerEffect contents server action next response) (store : StoreInv contents server)
    (inv : DescriptorInv server) : DescriptorInv next := by
  cases effect with
  | redirect handle path opening =>
      refine inv.of_same rfl rfl (fun _ member => member) (Or.inr ⟨Or.inl rfl, ?_⟩)
      intro other original redirPath redirected
      simp only [HandlerPc.openRedirected.injEq] at redirected
      obtain ⟨_, samePath, sameRedir⟩ := redirected
      subst original redirPath
      cases cached : server.pathCacheMap[path]? with
      | none => exact Or.inl (by simp)
      | some filename => exact Or.inr (by simpa using store.mapped path filename cached)
  | opened handle path redirPath fd opening unused present => exact inv.opened opening unused.1
  | openFailed handle path redirPath opening => exact inv.openFailed path
  | readDone handle inputVal accessfd offset failure outcome reading allocated result fits =>
      exact inv.handlerRead result (Or.inl rfl)
  | readOverrun handle inputVal accessfd offset failure outcome reading allocated result overrun =>
      exact inv.handlerRead result (Or.inr rfl)
  | closed fd descriptor closing found =>
      refine inv.closed found ?_
      split
      · exact Or.inl rfl
      · exact Or.inr rfl
  | pushPath fd pushing =>
      obtain ⟨_, path, recorded⟩ := inv.forgetting fd (by simp [pushing, HandlerPc.closed?])
      refine inv.of_same rfl ?_ (fun _ member => member)
        (Or.inr ⟨Or.inr (by simp [pushing, HandlerPc.closed?]), by simp⟩)
      rw [OrderedMap.index_of_some recorded]
  | erasePath fd erasing => exact inv.erased erasing
  | copied filename path rest bytes writing front source complete =>
      exact inv.of_same rfl rfl (fun _ member => List.mem_append_left _ member) (Or.inl rfl)
  | _ =>
      exact inv.of_same rfl rfl (fun _ member => member) (by simp [HandlerPc.closed?, *])

theorem StoreInv.visible (store : StoreInv contents server) {path file : String} {bytes : Bytes}
    (serves : server.Serves path file) (source : contents path = some bytes) :
    server.files contents file = some bytes := by
  rcases serves with same | copied
  · have absent : server.nvme[path]? = none := by
      by_contra stored
      obtain ⟨data, present⟩ := Option.ne_none_iff_exists'.mp stored
      simp [(store.placed path data present).1] at source
    simp [Server.files, same, absent, source]
  · obtain ⟨data, sameSource, stored⟩ := store.complete path file copied
    rw [source] at sameSource
    simp [Server.files, stored, sameSource]

theorem DescriptorInv.readable (inv : DescriptorInv server) (store : StoreInv contents server)
    {fd : Int} {descriptor : Descriptor} {path : String} {bytes : Bytes}
    (opened : server.kernel[fd]? = some descriptor) (recorded : server.fdToPath[fd]? = some path)
    (source : contents path = some bytes) :
    readable (server.files contents) descriptor = some bytes := by
  obtain ⟨_, mode, original, found, serves⟩ := inv.recorded fd descriptor opened
  rw [recorded, Option.some.injEq] at found
  subst original
  simp [Posix.readable, mode, store.visible serves source]

/-! What the open handler records. -/

def ServerAction.request? : ServerAction → Option Request
  | .accept request => some request
  | _ => none

def lastAccepted (actions : List ServerAction) : Option Request :=
  (actions.filterMap ServerAction.request?).getLast?

theorem lastAccepted_accept (actions : List ServerAction) (request : Request) :
    lastAccepted (actions ++ [.accept request]) = some request := by
  simp [lastAccepted, ServerAction.request?]

theorem lastAccepted_other (actions : List ServerAction) {action : ServerAction}
    (silent : action.request? = none) :
    lastAccepted (actions ++ [action]) = lastAccepted actions := by
  simp [lastAccepted, silent]

def StoredBy (actions : List ServerAction) (fd : Int) (path : String) : Prop :=
  ∃ earlier handle, earlier ++ [.openFile fd] <+: actions ∧
    lastAccepted earlier = some (.openRpc handle path)

theorem StoredBy.append {actions : List ServerAction} {fd : Int} {path : String}
    (stored : StoredBy actions fd path) (action : ServerAction) :
    StoredBy (actions ++ [action]) fd path := by
  obtain ⟨earlier, handle, begins, accepted⟩ := stored
  exact ⟨earlier, handle, begins.trans (List.prefix_append _ _), accepted⟩

def HandlerPc.opening? : HandlerPc → Option (Handle × String)
  | .openRpc handle path => some (handle, path)
  | .openRedirected handle path _ => some (handle, path)
  | _ => none

structure HistoryInv (contents : String → Option Bytes) (actions : List ServerAction)
    (server : Server) : Prop where
  store : StoreInv contents server
  descriptors : DescriptorInv server
  opening : ∀ handle path, server.handler.opening? = some (handle, path) →
    lastAccepted actions = some (.openRpc handle path)
  stored : ∀ (fd : Int) (path : String), server.fdToPath[fd]? = some path →
    StoredBy actions fd path

theorem HistoryInv.record {actions : List ServerAction} (inv : HistoryInv contents actions server)
    {handle : Handle} {path : String} {fd : Int}
    (opening : server.handler.opening? = some (handle, path))
    (samePaths : next.fdToPath = server.fdToPath.insert fd path) :
    ∀ (other : Int) (original : String), next.fdToPath[other]? = some original →
      StoredBy (actions ++ [.openFile fd]) other original := by
  intro other original found
  rw [samePaths] at found
  rcases OrderedMap.found_insert found with ⟨same, stored⟩ | ⟨_, old⟩
  · subst other original
    exact ⟨actions, handle, List.prefix_rfl, inv.opening handle path opening⟩
  · exact (inv.stored other original old).append _

theorem ServerEffect.opening {action : ServerAction} {response : Option Response}
    (effect : ServerEffect contents server action next response) {handle : Handle} {path : String}
    (opening : next.handler.opening? = some (handle, path)) :
    action = .accept (.openRpc handle path) ∨
      (action.request? = none ∧ server.handler.opening? = some (handle, path)) := by
  cases effect with
  | acceptOpen other original idle =>
      simp only [HandlerPc.opening?, Option.some.injEq, Prod.mk.injEq] at opening
      exact Or.inl (by rw [opening.1, opening.2])
  | closed fd descriptor closing found =>
      simp only at opening
      split at opening <;> simp [HandlerPc.opening?] at opening
  | _ => simp_all [HandlerPc.opening?, ServerAction.request?]

theorem ServerEffect.historyInv {action : ServerAction} {response : Option Response}
    {actions : List ServerAction} (effect : ServerEffect contents server action next response)
    (inv : HistoryInv contents actions server) :
    HistoryInv contents (actions ++ [action]) next := by
  refine ⟨effect.storeInv inv.store, effect.descriptorInv inv.store inv.descriptors, ?_, ?_⟩
  · intro handle path opening
    rcases effect.opening opening with accepted | ⟨silent, before⟩
    · rw [accepted, lastAccepted_accept]
    · rw [lastAccepted_other _ silent]
      exact inv.opening handle path before
  · have kept : ∀ (fd : Int) (path : String), server.fdToPath[fd]? = some path →
        StoredBy (actions ++ [action]) fd path :=
      fun fd path found => (inv.stored fd path found).append action
    cases effect with
    | opened handle path redirPath fd opening unused present =>
        have serving : server.handler.opening? = some (handle, path) := by
          simp [opening, HandlerPc.opening?]
        exact inv.record serving rfl
    | openFailed handle path redirPath opening =>
        have serving : server.handler.opening? = some (handle, path) := by
          simp [opening, HandlerPc.opening?]
        exact inv.record serving rfl
    | closed fd descriptor closing found =>
        obtain ⟨_, _, path, recorded, _⟩ := inv.descriptors.recorded fd descriptor found
        simp only [OrderedMap.index_of_some recorded]
        exact kept
    | pushPath fd pushing =>
        obtain ⟨_, path, recorded⟩ :=
          inv.descriptors.forgetting fd (by simp [pushing, HandlerPc.closed?])
        simp only [OrderedMap.index_of_some recorded]
        exact kept
    | erasePath fd erasing =>
        intro other path found
        exact kept other path (OrderedMap.found_erase found).2
    | _ => exact kept

/-! Failed copies. -/

theorem ServerEffect.map_kept {action : ServerAction} {response : Option Response}
    (effect : ServerEffect contents server action next response)
    (outside : server.mover.inCopy = false) (noDir : ∀ dirpath, action ≠ .moverMakeDir dirpath true) :
    next.mover.inCopy = false ∧ next.pathCacheMap = server.pathCacheMap := by
  cases effect with
  | madeDir dirpath path rest looping front newDir absent => exact absurd rfl (noDir dirpath)
  | _ => simp_all [MoverPc.inCopy]

theorem run_map_kept {later : List ServerAction} {final : Server}
    (outside : server.mover.inCopy = false)
    (ran : run (serverStep contents) server later = some final)
    (noDir : ∀ dirpath, .moverMakeDir dirpath true ∉ later) :
    final.pathCacheMap = server.pathCacheMap := by
  have preserved : ∀ before action after,
      before.mover.inCopy = false ∧ before.pathCacheMap = server.pathCacheMap →
      (∀ dirpath, action ≠ .moverMakeDir dirpath true) →
      serverStep contents before action = some after →
      after.mover.inCopy = false ∧ after.pathCacheMap = server.pathCacheMap := by
    intro before action after ⟨idle, same⟩ other stepped
    obtain ⟨response, effect⟩ := serverStep_effect stepped
    obtain ⟨stillIdle, kept⟩ := effect.map_kept idle other
    exact ⟨stillIdle, kept.trans same⟩
  have meets : Meets (serverStep contents)
      (fun _ action => ∀ dirpath, action ≠ .moverMakeDir dirpath true) server later := by
    refine meets_of_forall ?_ server
    intro action member _ dirpath same
    exact noDir dirpath (same ▸ member)
  exact (run_invariant_of_meets preserved ⟨outside, rfl⟩ meets ran).2

/-- The map leads from a path to a finished copy of it that no other path shares. A
`mkdtemp` or a copy that fails ends the iteration with the map as it was, until the
next directory is made. Every recorded descriptor has the path its open asked for. -/
structure RedirectionSound (contents : String → Option Bytes) (actions : List ServerAction)
    (server : Server) : Prop where
  complete : ∀ (path filename : String), server.pathCacheMap[path]? = some filename →
    (path, filename) ∈ server.log.copies ∧
      ∃ bytes, contents path = some bytes ∧ server.nvme[filename]? = some bytes
  distinct : ∀ (first second filename : String), server.pathCacheMap[first]? = some filename →
    server.pathCacheMap[second]? = some filename → first = second
  noDir : ∀ dirpath next, serverStep contents server (.moverMakeDir dirpath false) = some next →
    next.mover.inCopy = false ∧ next.pathCacheMap = server.pathCacheMap
  threw : ∀ next, serverStep contents server .moverThrow = some next →
    next.mover.inCopy = false ∧ next.pathCacheMap = server.pathCacheMap
  kept : server.mover.inCopy = false → ∀ later final,
    run (serverStep contents) server later = some final →
    (∀ dirpath, .moverMakeDir dirpath true ∉ later) → final.pathCacheMap = server.pathCacheMap
  recorded : ∀ (fd : Int) (path : String), server.fdToPath[fd]? = some path →
    StoredBy actions fd path

theorem redirection_sound (contents : String → Option Bytes) (actions : List ServerAction)
    (server : Server) (ran : run (serverStep contents) Server.initial actions = some server) :
    RedirectionSound contents actions server := by
  have initial : HistoryInv contents [] Server.initial := by
    refine ⟨storeInv_initial, descriptorInv_initial, ?_, ?_⟩
    · simp [Server.initial, HandlerPc.opening?]
    · simp [Server.initial]
  have inv : HistoryInv contents actions server := by
    refine run_history ?_ initial ran
    intro earlier before action after held stepped
    obtain ⟨response, effect⟩ := serverStep_effect stepped
    exact effect.historyInv held
  refine ⟨?_, ?_, ?_, ?_, ?_, inv.stored⟩
  · intro path filename found
    have copied := inv.store.mapped path filename found
    exact ⟨copied, inv.store.complete path filename copied⟩
  · intro first second filename firstFound secondFound
    exact inv.store.distinct first second filename (inv.store.mapped first filename firstFound)
      (inv.store.mapped second filename secondFound)
  · intro dirpath next stepped
    obtain ⟨response, effect⟩ := serverStep_effect stepped
    cases effect with
    | noDir _ path rest looping front => exact ⟨rfl, rfl⟩
  · intro next stepped
    obtain ⟨response, effect⟩ := serverStep_effect stepped
    cases effect with
    | threw filename inCopy => exact ⟨rfl, rfl⟩
  · intro outside later final finished noDir
    exact run_map_kept outside finished noDir

def failThenCache : List ServerAction :=
  [.moverLock, .moverWait] ++ openClose 0 5 ++
    [.moverWake, .moverDrain, .moverDrain, .moverMakeDir "/bb/XXXXXX" false, .moverThrow, .moverPop,
      .moverRest, .moverLock, .moverWait] ++ openClose 1 5 ++
    [.moverWake, .moverDrain, .moverDrain] ++ copyFront "/bb/AAA" ++
    [.accept (.openRpc { client := 0, callback := .openCb 4 } "/d/f"), .redirect, .openFile 7]

theorem redirection_sound_failThenCache : ∃ server,
    run (serverStep oneFile) Server.initial failThenCache = some server ∧
      server.pathCacheMap = (∅ : OrderedMap String String).insert "/d/f" "/bb/AAA/f" ∧
      server.fdToPath = (∅ : OrderedMap Int String).insert 7 "/d/f" ∧
      RedirectionSound oneFile failThenCache server := by
  have reached : (run (serverStep oneFile) Server.initial failThenCache).map
      (fun server => (server.pathCacheMap, server.fdToPath)) =
      some ((∅ : OrderedMap String String).insert "/d/f" "/bb/AAA/f",
        (∅ : OrderedMap Int String).insert 7 "/d/f") := by decide
  obtain ⟨server, ran, facts⟩ := Option.map_eq_some_iff.mp reached
  simp only [Prod.mk.injEq] at facts
  exact ⟨server, ran, facts.1, facts.2, redirection_sound oneFile failThenCache server ran⟩

end

end HvacCache
