import HvacCache.ReadTransparency
import HvacCache.SharedFilesCore

/-! Read-your-own-writes. A pread that goes to a server shows what the client has written
unless the server reads from a copy: while the client waits, nothing else can put another
file behind the server's descriptor. -/

namespace HvacCache

open Posix Transit Transition

variable {shared : String → Bool}

/-! Disks. -/

section
variable {disk : Disk shared} {path other : String} {bytes : Bytes}

theorem change_other (update : Bytes → Bytes) (different : other ≠ path) :
    (disk.change path update).files other = disk.files other := if_neg different

theorem change_same (update : Bytes → Bytes) (found : disk.files path = some bytes) :
    (disk.change path update).files path = some (update bytes) := by
  simp [Disk.change, found]

theorem create_kept (found : disk.files other = some bytes) :
    (disk.create path).files other = some bytes := by
  simp only [Disk.create]
  split
  · rename_i named
    simp [← named.1, found]
  · exact found

theorem openDisk_kept {create truncate : Bool} {fd : Int} (found : disk.files other = some bytes)
    (whole : ¬(truncate = true ∧ other = path)) :
    (openDisk disk path create truncate fd).files other = some bytes := by
  unfold openDisk
  split
  · exact found
  · have made : (if create then disk.create path else disk).files other = some bytes := by
      split
      · exact create_kept found
      · exact found
    simp only
    split
    · rename_i truncates
      rw [change_other _ fun same => whole ⟨truncates, same⟩]
      exact made
    · exact made

end

/-! Servers. -/

structure Apart (shared : String → Bool) (server : Server) : Prop where
  stored : ∀ (filename : String) (bytes : Bytes), server.nvme[filename]? = some bytes →
    shared filename = false
  target : ∀ filename, server.mover = .copying filename true → shared filename = false

section
variable {files : String → Option Bytes} {server state : Server} {action : ServerAction}
  {response : Option Response}

theorem apart_initial : Apart shared Server.initial := by
  constructor <;> simp [Server.initial]

theorem Apart.of_same (apart : Apart shared server) (sameStore : state.nvme = server.nvme)
    (idle : state.mover = server.mover ∨ state.mover.inCopy = false) : Apart shared state := by
  refine ⟨by rw [sameStore]; exact apart.stored, ?_⟩
  intro filename copying
  rcases idle with same | outside
  · exact apart.target filename (same ▸ copying)
  · simp [copying, MoverPc.inCopy] at outside

theorem Apart.insert (apart : Apart shared server) {filename : String} {bytes : Bytes}
    (named : shared filename = false)
    (sameStore : state.nvme = server.nvme.insert filename bytes)
    (writing : ∀ target, state.mover ≠ .copying target true) : Apart shared state := by
  refine ⟨?_, fun target copying => absurd copying (writing target)⟩
  intro other stored found
  rw [sameStore] at found
  rcases OrderedMap.found_insert found with ⟨same, _⟩ | ⟨_, old⟩
  · exact same ▸ named
  · exact apart.stored other stored old

theorem ServerEffect.apart (effect : ServerEffect files server action state response)
    (apart : Apart shared server)
    (nodeLocal : ∀ dirpath path rest, action = .moverMakeDir dirpath true →
      server.localList = path :: rest → shared (copyTarget dirpath path) = false) :
    Apart shared state := by
  cases effect with
  | madeDir dirpath path rest looping front newDir absent =>
      refine ⟨apart.stored, ?_⟩
      intro filename copying
      simp only [MoverPc.copying.injEq, and_true] at copying
      exact copying ▸ nodeLocal dirpath path rest rfl front
  | noDir dirpath path rest looping front =>
      exact ⟨apart.stored, by simp⟩
  | created filename path rest copying front source absent =>
      exact apart.insert (apart.target filename copying) rfl (by simp)
  | wrote filename path rest count bytes written writing front source target =>
      exact apart.insert (apart.stored filename written target) rfl (by simp [writing])
  | copied => exact apart.of_same rfl (Or.inr rfl)
  | threw => exact apart.of_same rfl (Or.inr rfl)
  | popped => exact apart.of_same rfl (Or.inr rfl)
  | moverLock => exact apart.of_same rfl (Or.inr rfl)
  | moverWait => exact apart.of_same rfl (Or.inr rfl)
  | moverWake => exact apart.of_same rfl (Or.inr rfl)
  | drainEnd => exact apart.of_same rfl (Or.inr rfl)
  | moverRest => exact apart.of_same rfl (Or.inr rfl)
  | signalled => exact apart.of_same rfl (Or.inr rfl)
  | _ => exact apart.of_same rfl (Or.inl rfl)

/-- A step of a server here is one of the fixed files, or a step of a copy. -/
theorem sharedServerAct_cases
    (acted : sharedServerAct shared files server action = some (state, response)) :
    (ServerEffect files server action state response ∧
      ∀ dirpath path rest, action = .moverMakeDir dirpath true →
        server.localList = path :: rest → shared (copyTarget dirpath path) = false) ∨
    (response = none ∧ state.kernel = server.kernel ∧ state.handler = server.handler ∧
      (Apart shared server → Apart shared state)) := by
  replace acted : sharedThreadAct shared files server action = some (state, response) := by
    unfold sharedServerAct at acted
    split at acted
    · simp at acted
    · exact acted
  unfold sharedThreadAct at acted
  split at acted
  · rename_i dirpath made
    split at acted
    · rename_i path rest front
      split at acted
      · simp at acted
      · rename_i nodeLocal
        refine Or.inl ⟨threadAct_effect acted, ?_⟩
        intro other target after same queued
        simp only [ServerAction.moverMakeDir.injEq] at same
        rw [front, List.cons.injEq] at queued
        simpa [same.2, ← same.1, ← queued.1] using nodeLocal
    · simp at acted
  · rename_i count
    obtain ⟨stepped, silent⟩ := silent_eq_some.mp acted
    refine Or.inr ⟨silent, ?_⟩
    unfold chunkStep at stepped
    split at stepped
    · rename_i filename path rest writing front
      split at stepped
      · rename_i bytes copied source target
        simp only [Option.some.injEq] at stepped
        subst state
        exact ⟨rfl, rfl, fun apart => apart.insert (apart.stored filename copied target) rfl
          (by simp [writing])⟩
      · simp at stepped
    · simp at stepped
  · obtain ⟨stepped, silent⟩ := silent_eq_some.mp acted
    refine Or.inr ⟨silent, ?_⟩
    unfold copyEndStep at stepped
    split at stepped
    · split at stepped
      · split at stepped
        · simp only [Option.some.injEq] at stepped
          subst state
          exact ⟨rfl, rfl, fun apart => apart.of_same rfl (Or.inr rfl)⟩
        · simp at stepped
      · simp at stepped
    · simp at stepped
  · rename_i notMakeDir _ _
    refine Or.inl ⟨threadAct_effect acted, ?_⟩
    intro dirpath path rest same
    exact absurd same (notMakeDir dirpath true)

theorem ServerEffect.files_kept (effect : ServerEffect files server action state response) :
    (∃ handle path, server.handler.request? = some (.openRpc handle path)) ∨
    ∀ (fd : Int) (after : Descriptor), state.kernel[fd]? = some after →
      ∃ before, server.kernel[fd]? = some before ∧ before.file = after.file := by
  cases effect with
  | opened handle path redirPath fd opening unused present =>
      exact Or.inl ⟨handle, path, by simp [opening, HandlerPc.request?]⟩
  | readDone handle inputVal accessfd offset failure outcome reading allocated result fits =>
      refine Or.inr fun fd after found => ?_
      subst outcome
      obtain ⟨before, opened, same, _⟩ := (handlerRead_sameFiles files server failure accessfd
        (uint64 inputVal) offset).symm.found found
      exact ⟨before, opened, same⟩
  | readOverrun handle inputVal accessfd offset failure outcome reading allocated result overrun =>
      refine Or.inr fun fd after found => ?_
      subst outcome
      obtain ⟨before, opened, same, _⟩ := (handlerRead_sameFiles files server failure accessfd
        (uint64 inputVal) offset).symm.found found
      exact ⟨before, opened, same⟩
  | closed closedFd descriptor closing opened =>
      exact Or.inr fun fd after found => ⟨after, (OrderedMap.found_erase found).2, rfl⟩
  | _ => exact Or.inr fun fd after found => ⟨after, found, rfl⟩

theorem ServerEffect.replied {answer : Response}
    (effect : ServerEffect files server action state (some answer)) :
    (∃ handle path fd, server.handler.request? = some (.openRpc handle path) ∧
      answer = .openOut handle fd) ∨
    ∃ handle inputVal accessfd offset failure ret,
      server.handler.request? = some (.readRpc handle inputVal accessfd offset) ∧ 0 ≤ inputVal ∧
      uint64 (handlerRead files server failure accessfd (uint64 inputVal) offset).1.ret ≤
        uint64 inputVal ∧
      answer = .rpcOut handle ret
        (handlerRead files server failure accessfd (uint64 inputVal) offset).1.data := by
  cases effect with
  | openFailed handle path redirPath opening =>
      exact Or.inl ⟨handle, path, -1, by simp [opening, HandlerPc.request?], rfl⟩
  | opened handle path redirPath fd opening unused present =>
      exact Or.inl ⟨handle, path, fd, by simp [opening, HandlerPc.request?], rfl⟩
  | readDone handle inputVal accessfd offset failure outcome reading allocated result fits =>
      subst outcome
      exact Or.inr ⟨handle, inputVal, accessfd, offset, failure, _,
        by simp [reading, HandlerPc.request?], allocated, fits, rfl⟩

theorem handlerRead_delivers {failure : Bool} {accessfd offset : Int} {count : Nat}
    (bound : count < 2 ^ 31) (lower : 0 ≤ offset) (upper : offset + count < 2 ^ 63)
    (fits : uint64 (handlerRead files server failure accessfd count offset).1.ret ≤ count) :
    ∃ serving bytes, server.kernel[accessfd]? = some serving ∧
      server.files files serving.file = some bytes ∧
      (handlerRead files server failure accessfd count offset).1.data =
        slice bytes offset.toNat count := by
  obtain ⟨rfl, present, _⟩ := readSucceeds_of_fits (by omega) fits
  obtain ⟨bytes, shown⟩ := Option.isSome_iff_exists.mp present
  obtain ⟨serving, found, visible⟩ := Option.bind_eq_some_iff.mp shown
  refine ⟨serving, bytes, found, ?_, ?_⟩
  · unfold readable at visible
    split at visible
    · simp at visible
    · exact visible
  · rw [(handlerRead_of_readable found visible count).2 offset lower upper]
    rfl

end

/-! The client and the messages it waits for. -/

def Client.Opens (client : Client) : Prop := ∃ file mode fd, client.pc = .openBlock file mode fd

/-- A message about a read belongs to the pread in progress. A request for what the client
has written finds the file itself open, if anything; the data of an answer hold it. -/
def SharedSystem.Fits (system : SharedSystem shared) : Message → Prop
  | .request _ (.openRpc _ _) => system.client.Opens
  | .request address (.readRpc _ inputVal accessfd offset) => ∃ (fd : Int) (count : Nat),
      system.client.pc = .preadBlock fd count offset ∧ inputVal = int32 count ∧
      (system.Touched fd count offset → ∀ plain serving, system.client.kernel[fd]? = some plain →
        plain.mode = .readWrite →
        (system.cluster.servers address).kernel[accessfd]? = some serving →
        count < 2 ^ 31 ∧ serving.file = plain.file)
  | .request _ (.closeRpc _) => True
  | .response _ (.openOut _ _) => system.client.Opens
  | .response _ (.rpcOut _ _ pushed) => ∃ fd count offset,
      system.client.pc = .preadBlock fd count offset ∧
      OwnBytes system.client system.written fd count offset pushed

def Stored (kernel : Table) (files : String → Option Bytes) (written : Written) : Prop :=
  ∀ fd place byte, written fd place = some byte → ∃ descriptor bytes,
    kernel[fd]? = some descriptor ∧ files descriptor.file = some bytes ∧
      bytes[place]? = some byte

structure SharedInv (system : SharedSystem shared) : Prop where
  ids : FreshIds system.cluster
  callers : UniqueBy Message.client? system.cluster.transit
  waited : ∀ site message client, system.cluster.transit site = some message →
    message.client? = some client → client = 0 ∧ system.client.completion.done = 0
  fits : ∀ site message, system.cluster.transit site = some message → system.Fits message
  received : system.client.completion.ready → ∀ fd count offset,
    system.client.pc = .preadBlock fd count offset →
    OwnBytes system.client system.written fd count offset system.client.buffer
  stored : system.client.pc ≠ .aborted →
    Stored system.client.kernel system.disk.files system.written
  apart : ∀ address, Apart shared (system.cluster.servers address)

section
variable {env : ClientEnv} {system next : SharedSystem shared}

theorem sharedInv_initial (disk : Disk shared) : SharedInv (SharedSystem.initial disk) := by
  refine ⟨?_, ?_, ?_, ?_, ?_, ?_, fun _ => apart_initial⟩
  · intro id message found
    simp [SharedSystem.initial, Cluster.initial] at found
  · intro first second firstItem secondItem value found
    simp [SharedSystem.initial] at found
  · intro site message client found
    simp [SharedSystem.initial] at found
  · intro site message found
    simp [SharedSystem.initial] at found
  · intro ready
    simp [SharedSystem.initial, SharedSystem.client, Cluster.initial, Client.initial,
      Completion.initial, Completion.ready] at ready
  · intro _ fd place byte noted
    simp [SharedSystem.initial] at noted

theorem SharedInv.noCall (inv : SharedInv system)
    (settled : system.client.pc = .idle ∨ system.client.completion.ready) :
    NoCall system.cluster 0 := by
  intro site message found caller
  have fits := inv.fits site message found
  have unset := (inv.waited site message 0 found caller).2
  have blocked : system.client.pc ≠ .idle := by
    cases message with
    | request address request =>
        cases request with
        | openRpc handle path =>
            obtain ⟨file, mode, fd, opening⟩ := fits
            simp [opening]
        | readRpc handle inputVal accessfd offset =>
            obtain ⟨fd, count, reading, _⟩ := fits
            simp [reading]
        | closeRpc fd => simp [Message.client?] at caller
    | response address response =>
        cases response with
        | openOut handle fd =>
            obtain ⟨file, mode, fd, opening⟩ := fits
            simp [opening]
        | rpcOut handle ret pushed =>
            obtain ⟨fd, count, offset, reading, _⟩ := fits
            simp [reading]
  rcases settled with idle | ready
  · exact blocked idle
  · simp [Completion.ready, unset] at ready

theorem SharedSystem.Fits.frame {message : Message} (fits : system.Fits message)
    (sameClient : next.client = system.client) (sameWritten : next.written = system.written)
    (kept : ∀ address handle inputVal accessfd offset,
      message = .request address (.readRpc handle inputVal accessfd offset) →
      ∀ after, (next.cluster.servers address).kernel[accessfd]? = some after →
        ∃ before, (system.cluster.servers address).kernel[accessfd]? = some before ∧
          before.file = after.file) : next.Fits message := by
  cases message with
  | request address request =>
      cases request with
      | openRpc handle path => simpa only [SharedSystem.Fits, sameClient] using fits
      | readRpc handle inputVal accessfd offset =>
          obtain ⟨fd, count, reading, sameVal, original⟩ := fits
          simp only [SharedSystem.Fits, SharedSystem.Touched, sameClient, sameWritten]
          refine ⟨fd, count, reading, sameVal, ?_⟩
          intro touched plain after opened mode serving
          obtain ⟨before, present, sameFile⟩ := kept address handle _ _ _ rfl after serving
          exact sameFile ▸ original touched plain before opened mode present
      | closeRpc fd => trivial
  | response address response =>
      cases response with
      | openOut handle fd => simpa only [SharedSystem.Fits, sameClient] using fits
      | rpcOut handle ret pushed =>
          simpa only [SharedSystem.Fits, sameClient, sameWritten] using fits

/-! Steps of the client. -/

theorem closeRpc_of_uncalled {cluster : Cluster} {site : Site} {message : Message}
    (waited : ∀ client, message.client? = some client → client = 0)
    (noCall : NoCall cluster 0) (found : cluster.transit site = some message) :
    message.client? = none := by
  cases caller : message.client? with
  | none => rfl
  | some client =>
      rw [waited client caller] at caller
      exact absurd caller (noCall site message found)

theorem SharedSystem.Fits.of_uncalled {message : Message} (uncalled : message.client? = none) :
    next.Fits message := by
  cases message with
  | request address request =>
      cases request with
      | closeRpc fd => trivial
      | openRpc handle path => simp [Message.client?] at uncalled
      | readRpc handle inputVal accessfd offset => simp [Message.client?] at uncalled
  | response address response => simp [Message.client?] at uncalled

theorem flow_called {cluster : Cluster} {client : Nat} {state : Client}
    (message : Option Message) :
    Flow cluster.transit ((cluster.setClient client state).post message).transit none
      (message.map fun sent => (.net cluster.nextId, sent)) := by
  cases message with
  | none =>
      intro site item found
      simp only [Cluster.post, transit_setClient] at found
      exact Or.inl ⟨found, by simp⟩
  | some sent =>
      intro site item found
      rcases flow_post sent site item found with old | new
      · simp only [transit_setClient] at old
        exact Or.inl old
      · exact Or.inr new

theorem SharedInv.called (inv : SharedInv system) (noCall : NoCall system.cluster 0)
    {message : Option Message}
    (moved : next.cluster = (system.cluster.setClient 0 next.client).post message)
    (posted : ∀ sent, message = some sent → next.Fits sent ∧
      (sent.client? = none ∨
        (sent.client? = some 0 ∧ next.client.completion.done = 0)))
    (received : next.client.completion.ready → ∀ fd count offset,
      next.client.pc = .preadBlock fd count offset →
      OwnBytes next.client next.written fd count offset next.client.buffer)
    (stored : next.client.pc ≠ .aborted →
      Stored next.client.kernel next.disk.files next.written) : SharedInv next := by
  have uncalled : ∀ site message, system.cluster.transit site = some message →
      message.client? = none := fun site message found =>
    closeRpc_of_uncalled (fun client caller => (inv.waited site message client found caller).1)
      noCall found
  have flow : Flow system.cluster.transit next.cluster.transit none
      (message.map fun sent => (.net system.cluster.nextId, sent)) := by
    rw [moved]
    exact flow_called message
  have sent : ∀ site carried, next.cluster.transit site = some carried →
      carried.client? = none ∨ message = some carried := by
    intro site carried found
    rcases flow site carried found with ⟨old, _⟩ | new
    · exact Or.inl (uncalled site carried old)
    · simp only [Option.map_eq_some_iff, Prod.mk.injEq] at new
      obtain ⟨fresh, put, _, same⟩ := new
      exact Or.inr (same ▸ put)
  refine ⟨?_, ?_, ?_, ?_, received, stored, ?_⟩
  · rw [moved]
    exact FreshIds.post inv.ids
  · refine flow.uniqueBy inv.callers ?_
    intro site item client put caller other otherItem found otherCaller
    simp [uncalled other otherItem found] at otherCaller
  · intro site carried client found caller
    rcases sent site carried found with none | put
    · simp [none] at caller
    · rcases (posted carried put).2 with none | ⟨same, unset⟩
      · simp [none] at caller
      · rw [same, Option.some.injEq] at caller
        exact ⟨caller.symm, unset⟩
  · intro site carried found
    rcases sent site carried found with none | put
    · exact .of_uncalled none
    · exact (posted carried put).1
  · rw [moved, servers_post, servers_setClient]
    exact inv.apart

theorem Stored.ownBytes {client : Client} {files : String → Option Bytes} {written : Written}
    (stored : Stored client.kernel files written) (fd : Int) (count : Nat) (offset : Int) :
    OwnBytes client written fd count offset
      (Posix.pread files client.kernel fd count offset).data := by
  intro descriptor opened mode lower upper index within byte noted
  obtain ⟨plain, bytes, present, found, byteAt⟩ := stored fd _ byte noted
  rw [opened, Option.some.injEq] at present
  subst plain
  have visible : readable files descriptor = some bytes := by simp [readable, mode, found]
  rw [pread_of_readable opened visible lower upper]
  exact (slice_getElem? within).trans byteAt

theorem Stored.of_sameFiles {kernel after : Table} {files : String → Option Bytes}
    {written : Written} (stored : Stored kernel files written) (same : SameFiles kernel after) :
    Stored after files written := by
  intro fd place byte noted
  obtain ⟨descriptor, bytes, opened, found, byteAt⟩ := stored fd place byte noted
  obtain ⟨shifted, present, sameFile, _⟩ := same.found opened
  exact ⟨shifted, bytes, present, sameFile ▸ found, byteAt⟩

theorem Stored.closed {kernel : Table} {files : String → Option Bytes} {written : Written}
    (stored : Stored kernel files written) (fd : Int) :
    Stored (Posix.close kernel fd).2 files (closeWritten fd written) := by
  intro other place byte noted
  unfold closeWritten at noted
  split at noted
  · simp at noted
  · rename_i different
    obtain ⟨descriptor, bytes, opened, found, byteAt⟩ := stored other place byte noted
    exact ⟨descriptor, bytes, (close_other different).trans opened, found, byteAt⟩

theorem Stored.opened {kernel : Table} {disk : Disk shared} {written : Written}
    (stored : Stored kernel disk.files written) {fd : Int} (positive : fd ≠ -1) (file : String)
    (create truncate : Bool) (descriptor : Descriptor) :
    Stored (kernel.insert fd descriptor) (openDisk disk file create truncate fd).files
      (openWritten kernel file truncate fd written) := by
  intro other place byte noted
  unfold openWritten at noted
  split at noted
  · simp at noted
  · rename_i kept
    obtain ⟨plain, bytes, opened, found, byteAt⟩ := stored other place byte noted
    have different : other ≠ fd := fun same => kept ⟨positive, Or.inl same⟩
    refine ⟨plain, bytes, ?_, openDisk_kept found ?_, byteAt⟩
    · rw [OrderedMap.getElem?_insert_ite, if_neg (Ne.symm different)]
      exact opened
    · rintro ⟨truncates, same⟩
      exact kept ⟨positive, Or.inr ⟨truncates, by simp [opened, same]⟩⟩

theorem Stored.noted {kernel : Table} {disk : Disk shared} {written : Written}
    (stored : Stored kernel disk.files written) {fd : Int} {descriptor : Descriptor}
    (opened : kernel[fd]? = some descriptor) (present : (disk.files descriptor.file).isSome)
    (position : Nat) (data : Bytes) :
    Stored kernel
      (disk.change descriptor.file fun bytes => overwrite bytes position data).files
      (noteWrite kernel fd descriptor.file position data written) := by
  intro other place byte noted
  unfold noteWrite at noted
  split at noted
  · rename_i inside
    obtain ⟨_, lower, upper⟩ := inside
    split at noted
    · rename_i same
      subst other
      obtain ⟨bytes, found⟩ := Option.isSome_iff_exists.mp present
      exact ⟨descriptor, _, opened, change_same _ found,
        (overwrite_inside lower upper).trans noted⟩
    · simp at noted
  · rename_i outside
    obtain ⟨plain, bytes, found, contents, byteAt⟩ := stored other place byte noted
    by_cases same : plain.file = descriptor.file
    · refine ⟨plain, overwrite bytes position data, found, ?_, ?_⟩
      · rw [same] at contents ⊢
        exact change_same _ contents
      · rw [overwrite_outside (List.getElem?_eq_some_iff.mp byteAt).1]
        · exact byteAt
        · intro inside
          exact outside ⟨by simp [found, same], inside⟩
    · exact ⟨plain, bytes, found, (change_other _ same).trans contents, byteAt⟩

section
variable {files : String → Option Bytes} {state : Client}
  {outgoing : Outgoing} {action : ClientAction}

theorem ClientEffect.unanswered {self : Nat} {client : Client}
    (effect : ClientEffect env files self client action state outgoing)
    (ready : state.completion.ready) (fd : Int) (count : Nat) (offset : Int) :
    state.pc ≠ .preadBlock fd count offset := by
  cases effect with
  | preadTracked =>
      simp [Completion.ready, Completion.resetDone, Completion.resetReadRet] at ready
  | _ => simp [Client.finish, realRead, realPread, realClose, Client.abort]

theorem SharedInv.call (inv : SharedInv system)
    (effect : ClientEffect env files 0 system.client action state outgoing)
    (notRead : ∀ fd count, action ≠ .readCall fd count)
    (moved : next.cluster = (system.cluster.setClient 0 state).post
      (outgoing.map fun sent => .request sent.1 sent.2))
    (asked : ∀ fd count offset, action = .preadCall fd count offset →
      next.written = system.written ∧ ServedOriginal env system (.pread fd count offset))
    (stored : state.pc ≠ .aborted → Stored state.kernel next.disk.files next.written) :
    SharedInv next := by
  have sameClient : next.client = state := by
    simp [SharedSystem.client, moved]
  have sameServers : next.cluster.servers = system.cluster.servers := by
    simp [moved]
  have received : next.client.completion.ready → ∀ fd count offset,
      next.client.pc = .preadBlock fd count offset →
      OwnBytes next.client next.written fd count offset next.client.buffer := by
    rw [sameClient]
    intro ready fd count offset reading
    exact absurd reading (effect.unanswered ready fd count offset)
  refine inv.called (inv.noCall effect.settled) (by rw [sameClient]; exact moved) ?_ received
    (by rw [sameClient]; exact stored)
  intro message posted
  rw [sameClient]
  cases effect with
  | openTracked pathname flags fd path address cache idle unused present tracked routed =>
      simp only [Option.map_some, Option.some.injEq] at posted
      subst message
      refine ⟨?_, Or.inr ⟨rfl, rfl⟩⟩
      simp only [SharedSystem.Fits, sameClient]
      exact ⟨_, _, _, rfl⟩
  | readTracked fd count => exact absurd rfl (notRead fd count)
  | preadTracked fd count offset path address cache idle tracked redirected routed =>
      simp only [Option.map_some, Option.some.injEq] at posted
      subst message
      obtain ⟨sameWritten, original⟩ := asked fd count offset rfl
      refine ⟨?_, Or.inr ⟨rfl, rfl⟩⟩
      simp only [SharedSystem.Fits, SharedSystem.Touched, sameClient, sameWritten, sameServers]
      refine ⟨fd, count, rfl, rfl, ?_⟩
      intro touched plain serving opened mode served
      refine original touched plain opened mode serving ?_
      simp [SharedSystem.serving, tracked, routed, redirected, served]
  | closeTracked fd path address cache idle tracked routed =>
      simp only [Option.map_some, Option.some.injEq] at posted
      subst message
      exact ⟨trivial, Or.inl rfl⟩
  | _ => simp at posted

theorem ClientEffect.preads {self : Nat} {client : Client} {fd : Int} {count : Nat} {offset : Int}
    {result : ReadResult} (effect : ClientEffect env files self client action state outgoing)
    (traced : state.trace = client.trace ++ [.pread fd count offset result]) :
    (action = .preadCall fd count offset ∨ action = .wake) ∧
      (result = Posix.pread files client.kernel fd count offset ∨
        client.completion.ready ∧ client.pc = .preadBlock fd count offset ∧
          result.data = client.buffer) := by
  cases effect with
  | preadUntracked calledFd calledCount calledOffset idle untracked =>
      simp only [realPread, Client.finish, List.append_cancel_left_eq, List.cons.injEq,
        Event.pread.injEq, and_true] at traced
      obtain ⟨sameFd, sameCount, sameOffset, same⟩ := traced
      subst sameFd sameCount sameOffset
      exact ⟨Or.inl rfl, Or.inl same.symm⟩
  | preadLocal calledFd calledCount calledOffset path idle tracked unredirected =>
      simp only [realPread, Client.finish, List.append_cancel_left_eq, List.cons.injEq,
        Event.pread.injEq, and_true] at traced
      obtain ⟨sameFd, sameCount, sameOffset, same⟩ := traced
      subst sameFd sameCount sameOffset
      exact ⟨Or.inl rfl, Or.inl same.symm⟩
  | wakePread calledFd calledCount calledOffset ready blocked returned =>
      simp only [Client.finish, List.append_cancel_left_eq, List.cons.injEq,
        Event.pread.injEq, and_true] at traced
      obtain ⟨sameFd, sameCount, sameOffset, same⟩ := traced
      subst sameFd sameCount sameOffset
      exact ⟨Or.inr rfl, Or.inr ⟨ready, blocked, by rw [← same]⟩⟩
  | wakePreadLocal calledFd calledCount calledOffset ready blocked failed =>
      simp only [realPread, Client.finish, List.append_cancel_left_eq, List.cons.injEq,
        Event.pread.injEq, and_true] at traced
      obtain ⟨sameFd, sameCount, sameOffset, same⟩ := traced
      subst sameFd sameCount sameOffset
      exact ⟨Or.inr rfl, Or.inl same.symm⟩
  | _ => simp [Client.finish, realRead, realClose, Client.abort] at traced

theorem readsOwnWrites_of_quiet (quiet : next.client.trace = system.client.trace) :
    ReadsOwnWrites system next := by
  intro fd count offset result traced
  simp [quiet] at traced

theorem callStep_effect {cluster after : Cluster}
    (stepped : callStep (fun _ => env) files cluster 0 action = some after) :
    ∃ state outgoing, ClientEffect env files 0 (cluster.clients 0) action state outgoing ∧
      after = (cluster.setClient 0 state).post
        (outgoing.map fun sent => .request sent.1 sent.2) := by
  unfold callStep at stepped
  split at stepped
  · simp at stepped
  · rename_i state outgoing acted
    simp only [Option.some.injEq] at stepped
    exact ⟨state, outgoing, clientAct_effect acted, stepped.symm⟩

theorem SharedInv.reads (inv : SharedInv system)
    (effect : ClientEffect env files 0 system.client action state outgoing)
    (sameClient : next.client = state)
    (sameFiles : ∀ fd count offset, action = .preadCall fd count offset ∨ action = .wake →
      files = system.disk.files) : ReadsOwnWrites system next := by
  intro fd count offset result traced
  rw [sameClient] at traced
  obtain ⟨called, returned⟩ := effect.preads traced
  rcases returned with plain | ⟨ready, blocked, buffered⟩
  · rw [plain, sameFiles fd count offset called]
    exact (inv.stored effect.alive).ownBytes fd count offset
  · rw [buffered]
    exact inv.received ready fd count offset blocked

theorem SharedInv.openFile (inv : SharedInv system) {pathname : String} {flags : OpenFlags}
    {create truncate : Bool} {fd : Int}
    (stepped : sharedStep env system (.openFile pathname flags create truncate fd) = some next) :
    SharedInv next ∧ ReadsOwnWrites system next := by
  simp only [sharedStep, Option.map_eq_some_iff] at stepped
  obtain ⟨cluster, called, same⟩ := stepped
  obtain ⟨state, outgoing, effect, moved⟩ := callStep_effect called
  have stored := inv.stored effect.alive
  subst next cluster
  refine ⟨inv.call effect (by simp) rfl (by simp) ?_,
    inv.reads effect (by simp [SharedSystem.client]) (by simp)⟩
  intro survived
  simp only
  cases effect with
  | openFailed pathname flags idle =>
      have kept : openWritten system.client.kernel (env.resolve pathname) truncate (-1)
          system.written = system.written := by
        funext other place
        simp [openWritten]
      rw [kept]
      exact stored
  | openUntracked pathname flags fd idle unused present untracked =>
      have positive : fd ≠ -1 := by
        have lower := unused.1
        omega
      exact stored.opened positive _ create truncate _
  | openTracked pathname flags fd path address cache idle unused present tracked routed =>
      have positive : fd ≠ -1 := by
        have lower := unused.1
        omega
      exact stored.opened positive _ create truncate _
  | aborted action path idle unrouted => exact absurd rfl survived

theorem SharedInv.pread (inv : SharedInv system) {fd : Int} {count : Nat} {offset : Int}
    (served : ServedOriginal env system (.pread fd count offset))
    (stepped : sharedStep env system (.pread fd count offset) = some next) :
    SharedInv next ∧ ReadsOwnWrites system next := by
  simp only [sharedStep, Option.map_eq_some_iff] at stepped
  obtain ⟨cluster, called, same⟩ := stepped
  obtain ⟨state, outgoing, effect, moved⟩ := callStep_effect called
  subst next cluster
  refine ⟨inv.call effect (by simp) rfl ?_ ?_,
    inv.reads effect (by simp [SharedSystem.client, SharedSystem.move]) (fun _ _ _ _ => rfl)⟩
  · intro other otherCount otherOffset same
    simp only [ClientAction.preadCall.injEq] at same
    obtain ⟨sameFd, sameCount, sameOffset⟩ := same
    subst sameFd sameCount sameOffset
    exact ⟨rfl, served⟩
  · intro survived
    have sameKernel : state.kernel = system.client.kernel := by
      cases effect with
      | aborted action path idle unrouted => exact absurd rfl survived
      | _ => rfl
    rw [sameKernel]
    exact inv.stored effect.alive

theorem SharedInv.close (inv : SharedInv system) {fd : Int}
    (stepped : sharedStep env system (.close fd) = some next) :
    SharedInv next ∧ ReadsOwnWrites system next := by
  simp only [sharedStep, Option.map_eq_some_iff] at stepped
  obtain ⟨cluster, called, same⟩ := stepped
  obtain ⟨state, outgoing, effect, moved⟩ := callStep_effect called
  subst next cluster
  refine ⟨inv.call effect (by simp) rfl (by simp) ?_,
    inv.reads effect (by simp [SharedSystem.client]) (by simp)⟩
  intro survived
  have sameKernel : state.kernel = (Posix.close system.client.kernel fd).2 := by
    cases effect with
    | aborted action path idle unrouted => exact absurd rfl survived
    | _ => rfl
  rw [sameKernel]
  exact (inv.stored effect.alive).closed fd

theorem SharedInv.wake (inv : SharedInv system)
    (stepped : sharedStep env system .wake = some next) :
    SharedInv next ∧ ReadsOwnWrites system next := by
  simp only [sharedStep, Option.map_eq_some_iff] at stepped
  obtain ⟨cluster, called, same⟩ := stepped
  obtain ⟨state, outgoing, effect, moved⟩ := callStep_effect called
  subst next cluster
  refine ⟨inv.call effect (by simp) rfl (by simp) ?_,
    inv.reads effect (by simp [SharedSystem.client, SharedSystem.move]) (fun _ _ _ _ => rfl)⟩
  intro survived
  have sameFiles : SameFiles system.client.kernel state.kernel := by
    cases effect with
    | aborted action path idle unrouted => exact absurd rfl survived
    | wakeReadLocal fd count => exact read_sameFiles system.disk.files system.client.kernel fd count
    | _ => exact SameFiles.refl _
  exact (inv.stored effect.alive).of_sameFiles sameFiles

theorem SharedInv.write (inv : SharedInv system) {fd : Int} {position : Nat} {data : Bytes}
    (stepped : sharedStep env system (.write fd position data) = some next) :
    SharedInv next ∧ ReadsOwnWrites system next := by
  simp only [sharedStep] at stepped
  split at stepped
  · rename_i descriptor opened
    split at stepped
    · rename_i granted
      obtain ⟨idle, _, present⟩ := granted
      simp only [Option.some.injEq] at stepped
      subst next
      have noCall := inv.noCall (Or.inl idle)
      refine ⟨⟨inv.ids, inv.callers, inv.waited, ?_, ?_, ?_, inv.apart⟩,
        readsOwnWrites_of_quiet rfl⟩
      · intro site message found
        exact .of_uncalled (closeRpc_of_uncalled
          (fun client caller => (inv.waited site message client found caller).1) noCall found)
      · intro ready other count offset reading
        simp [SharedSystem.client] at idle reading
        simp [idle] at reading
      · intro alive
        exact (inv.stored alive).noted opened present position data
    · simp at stepped
  · simp at stepped

end

/-! Steps of the network and of the servers. -/

theorem SharedInv.taken (inv : SharedInv system) (id : Nat) :
    SharedInv (system.move (system.cluster.take id)) := by
  have flow : Flow system.cluster.transit (system.cluster.take id).transit (some (.net id)) none :=
    flow_take id
  have before : ∀ site message, (system.cluster.take id).transit site = some message →
      system.cluster.transit site = some message :=
    fun site message found => ((flow site message found).resolve_right (by simp)).1
  refine ⟨FreshIds.take inv.ids id, flow.uniqueBy inv.callers (by simp), ?_, ?_, inv.received,
    inv.stored, inv.apart⟩
  · intro site message client found
    exact inv.waited site message client (before site message found)
  · intro site message found
    exact inv.fits site message (before site message found)

theorem SharedInv.noCall_taken (inv : SharedInv system) {id : Nat} {message : Message}
    (found : system.cluster.net[id]? = some message) (caller : message.client? = some 0) :
    NoCall (system.cluster.take id) 0 := by
  have carried : system.cluster.transit (.net id) = some message := found
  exact fun _ _ later => inv.callers.gone (flow_take id) carried caller later

theorem SharedInv.answered (inv : SharedInv system) {id : Nat}
    (stepped : sharedStep env system (.deliverResponse id) = some next) :
    SharedInv next ∧ ReadsOwnWrites system next := by
  simp only [sharedStep, deliverResponseStep, Option.map_eq_some_iff] at stepped
  obtain ⟨cluster, delivered, same⟩ := stepped
  split at delivered
  · rename_i address response found
    split at delivered
    · simp at delivered
    · rename_i state received
      simp only [Option.some.injEq] at delivered
      subst next cluster
      have carried : system.cluster.transit (.net id) = some (.response address response) := found
      have waited := (inv.waited (.net id) _ response.client carried rfl).1
      have fits := inv.fits (.net id) _ carried
      rw [waited] at received ⊢
      have noCall := inv.noCall_taken found (by rw [← waited]; rfl)
      have sameClient :
          (system.move ((system.cluster.take id).setClient 0 state)).client = state := by
        simp [SharedSystem.client, SharedSystem.move]
      have moved : (system.move ((system.cluster.take id).setClient 0 state)).cluster =
          ((system.move (system.cluster.take id)).cluster.setClient 0
            (system.move ((system.cluster.take id).setClient 0 state)).client).post none := by
        rw [sameClient]
        rfl
      obtain ⟨samePc, sameTrace, _, sameKernel⟩ := receive_frame received
      refine ⟨(inv.taken id).called noCall moved (by simp) ?_ ?_, readsOwnWrites_of_quiet ?_⟩
      · rw [sameClient, samePc]
        intro _ fd count offset reading
        rcases receive_effect received with
          ⟨caller, opening, remote, isOpen, after⟩ | ⟨caller, ret, pushed, isRead, after⟩
        · subst response
          obtain ⟨file, mode, opened, blocked⟩ := fits
          simp [SharedSystem.client, reading] at blocked
        · subst response state
          obtain ⟨readFd, readCount, readOffset, blocked, own⟩ := fits
          simp only [SharedSystem.client, reading, ClientPc.preadBlock.injEq] at blocked
          obtain ⟨sameFd, sameCount, sameOffset⟩ := blocked
          subst sameFd sameCount sameOffset
          exact own
      · rw [sameClient, samePc, sameKernel]
        exact inv.stored
      · rw [sameClient]
        exact sameTrace
  · simp at delivered

theorem SharedInv.accepted (inv : SharedInv system) {id : Nat}
    (stepped : sharedStep env system (.deliverRequest id) = some next) :
    SharedInv next ∧ ReadsOwnWrites system next := by
  simp only [sharedStep, deliverRequestStep, Option.map_eq_some_iff] at stepped
  obtain ⟨cluster, delivered, same⟩ := stepped
  split at delivered
  · rename_i address request found
    split at delivered
    · simp at delivered
    · rename_i state response acted
      simp only [Option.some.injEq] at delivered
      subst next cluster
      have effect := serverAct_effect acted
      obtain rfl := accept_silent effect
      have taken := inv.taken id
      have carried : system.cluster.transit (.net id) = some (.request address request) := found
      have accept : Flow (system.cluster.take id).transit
          ((system.cluster.take id).setServer address state).transit none
          (some (.handler address, .request address request)) := flow_accept effect
      have moved : ∀ site message,
          ((system.cluster.take id).setServer address state).transit site = some message →
          ∃ before, system.cluster.transit before = some message := by
        intro site message placed
        rcases accept site message placed with ⟨old, _⟩ | new
        · exact ⟨site, ((flow_take id site message old).resolve_right (by simp)).1⟩
        · simp only [Option.some.injEq, Prod.mk.injEq] at new
          exact ⟨.net id, new.2 ▸ carried⟩
      have sameKernel : ∀ other,
          (((system.cluster.take id).setServer address state).servers other).kernel =
            (system.cluster.servers other).kernel := by
        intro other
        by_cases here : other = address
        · subst other
          rw [servers_setServer_same]
          cases effect <;> rfl
        · rw [servers_setServer_other state here, servers_take]
      refine ⟨⟨taken.ids, ?_, ?_, ?_, inv.received, inv.stored, ?_⟩, readsOwnWrites_of_quiet rfl⟩
      · refine accept.uniqueBy taken.callers ?_
        intro place item client put caller other otherItem otherFound otherCaller
        simp only [Option.some.injEq, Prod.mk.injEq] at put
        obtain ⟨_, same⟩ := put
        subst item
        exact absurd otherCaller (inv.callers.gone (flow_take id) carried caller otherFound)
      · intro site message client placed
        obtain ⟨before, old⟩ := moved site message placed
        exact inv.waited before message client old
      · intro site message placed
        obtain ⟨before, old⟩ := moved site message placed
        refine (inv.fits before message old).frame rfl rfl ?_
        intro other handle inputVal accessfd offset _ after opened
        simp only [SharedSystem.move, sameKernel] at opened
        exact ⟨after, opened, rfl⟩
      · refine forall_setServer (fun _ server => Apart shared server) inv.apart ?_
        exact effect.apart (inv.apart address) (by simp)
  · simp at delivered

theorem SharedInv.handlerRead_own (inv : SharedInv system) {address : String} {handle : Handle}
    {inputVal accessfd offset : Int} {failure : Bool}
    (handled : (system.cluster.servers address).handler.request? =
      some (.readRpc handle inputVal accessfd offset)) (allocated : 0 ≤ inputVal)
    (fits : uint64 (handlerRead system.disk.files (system.cluster.servers address) failure accessfd
      (uint64 inputVal) offset).1.ret ≤ uint64 inputVal) :
    ∃ fd count, system.client.pc = .preadBlock fd count offset ∧
      OwnBytes system.client system.written fd count offset
        (handlerRead system.disk.files (system.cluster.servers address) failure accessfd
          (uint64 inputVal) offset).1.data := by
  have carried : system.cluster.transit (.handler address) =
      some (.request address (.readRpc handle inputVal accessfd offset)) :=
    transit_handler handled
  obtain ⟨fd, count, reading, sameVal, original⟩ := inv.fits _ _ carried
  have narrow : inputVal < 2 ^ 31 := sameVal ▸ int32_lt count
  refine ⟨fd, count, reading, ?_⟩
  intro descriptor opened mode lower upper index within byte noted
  have size : uint64 inputVal = inputVal.toNat := uint64_of_nonneg allocated (by omega)
  have asked : (uint64 inputVal : Int) ≤ count := by
    have below := int32_toNat_le count
    rw [← sameVal] at below
    omega
  obtain ⟨serving, bytes, found, visible, delivers⟩ :=
    handlerRead_delivers (by omega) lower (by omega) fits
  obtain ⟨bound, sameFile⟩ :=
    original ⟨index, within, by simp [noted]⟩ descriptor serving opened mode found
  have sameCount : uint64 inputVal = count := by
    rw [sameVal, int32_of_nonneg (by omega) (by omega), uint64_of_nonneg (by omega) (by omega),
      Int.toNat_natCast]
  obtain ⟨plain, contents, present, stored, byteAt⟩ :=
    inv.stored (by simp [reading]) fd _ byte noted
  rw [opened, Option.some.injEq] at present
  subst plain
  have onDisk : shared descriptor.file = true := system.disk.placed _ (by simp [stored])
  have notCopied : (system.cluster.servers address).nvme[descriptor.file]? = none := by
    by_contra copied
    obtain ⟨copy, held⟩ := Option.ne_none_iff_exists'.mp copied
    simp [(inv.apart address).stored _ copy held] at onDisk
  rw [sameFile] at visible
  simp only [Server.files, notCopied, stored, Option.some.injEq] at visible
  subst bytes
  rw [delivers, sameCount]
  exact (slice_getElem? within).trans byteAt

theorem SharedInv.served (inv : SharedInv system) {address : String} {state : Server}
    {response : Option Response} (apart : Apart shared state)
    (request : (state.handler.request? = (system.cluster.servers address).handler.request? ∧
      response = none) ∨ state.handler.request? = none)
    (kept : (∃ handle path, (system.cluster.servers address).handler.request? =
        some (.openRpc handle path)) ∨
      ∀ (fd : Int) (after : Descriptor), state.kernel[fd]? = some after →
        ∃ before, (system.cluster.servers address).kernel[fd]? = some before ∧
          before.file = after.file)
    (replied : ∀ answer, response = some answer → system.Fits (.response address answer) ∧
      ∃ message, system.cluster.transit (.handler address) = some message ∧
        message.client? = some answer.client) :
    SharedInv (system.move
      ((system.cluster.setServer address state).post (response.map (.response address)))) := by
  have sent : ∀ site message, ((system.cluster.setServer address state).post
      (response.map (.response address))).transit site = some message →
      (system.cluster.transit site = some message ∧
        (state.handler.request? = none → site ≠ .handler address)) ∨
      ∃ answer, response = some answer ∧ message = .response address answer :=
    fun site message found => transit_served response (request.imp_left And.left) found
  have frame : ∀ site message, system.cluster.transit site = some message →
      (system.move ((system.cluster.setServer address state).post
        (response.map (.response address)))).Fits message := by
    intro site message carried
    have fits := inv.fits site message carried
    refine fits.frame (by simp [SharedSystem.client, SharedSystem.move]) rfl ?_
    intro other handle inputVal accessfd offset same after opened
    simp only [SharedSystem.move, servers_post] at opened
    by_cases here : other = address
    · subst other
      rw [servers_setServer_same] at opened
      rcases kept with ⟨otherHandle, path, opening⟩ | kept
      · -- The client that waits for a pread has no open being served.
        have handled : system.cluster.transit (.handler address) =
            some (.request address (.openRpc otherHandle path)) := transit_handler opening
        obtain ⟨file, mode, fd, blocked⟩ := inv.fits _ _ handled
        rw [same] at fits
        obtain ⟨readFd, count, reading, _⟩ := fits
        simp [blocked] at reading
      · exact kept accessfd after opened
    · rw [servers_setServer_other state here] at opened
      exact ⟨after, opened, rfl⟩
  refine ⟨?_, ?_, ?_, ?_, ?_, ?_, ?_⟩
  · exact FreshIds.post inv.ids
  · cases response with
    | none =>
        by_cases dropped : state.handler.request? = none
        · exact (flow_serve_drop dropped).uniqueBy inv.callers (by simp)
        · have same := (request.resolve_right dropped).1
          exact (flow_serve_keep same).uniqueBy inv.callers (by simp)
    | some answer =>
        have dropped : state.handler.request? = none := request.resolve_left (by simp)
        have flow : Flow system.cluster.transit (system.cluster.setServer address state).transit
            (some (.handler address)) none := flow_serve_drop dropped
        obtain ⟨_, message, handled, caller⟩ := replied answer rfl
        refine (flow_post (.response address answer)).uniqueBy
          (flow.uniqueBy inv.callers (by simp)) ?_
        intro place item client put answered other otherItem found otherCaller
        simp only [Option.some.injEq, Prod.mk.injEq] at put
        obtain ⟨_, same⟩ := put
        subst item
        exact absurd otherCaller
          (inv.callers.gone flow handled (caller.trans answered) found)
  · intro site message client found caller
    simp only [SharedSystem.move, SharedSystem.client, clients_post, clients_setServer]
    rcases sent site message found with ⟨old, _⟩ | ⟨answer, same, posted⟩
    · exact inv.waited site message client old caller
    · obtain ⟨_, handled, carried, sameCaller⟩ := replied answer same
      subst message
      exact inv.waited _ handled client carried (sameCaller.trans caller)
  · intro site message found
    rcases sent site message found with ⟨old, _⟩ | ⟨answer, same, posted⟩
    · exact frame site message old
    · subst message
      refine (replied answer same).1.frame (by simp [SharedSystem.client, SharedSystem.move]) rfl ?_
      simp
  · simpa [SharedSystem.move, SharedSystem.client] using inv.received
  · simpa [SharedSystem.move, SharedSystem.client] using inv.stored
  · simp only [SharedSystem.move, servers_post]
    exact forall_setServer (fun _ server => Apart shared server) inv.apart apart

theorem SharedInv.serve (inv : SharedInv system) {address : String} {action : ServerAction}
    (stepped : sharedStep env system (.serve address action) = some next) :
    SharedInv next ∧ ReadsOwnWrites system next := by
  simp only [sharedStep, Option.map_eq_some_iff] at stepped
  obtain ⟨cluster, served, same⟩ := stepped
  unfold sharedServeStep at served
  split at served
  · simp at served
  · rename_i serving
    split at served
    · simp at served
    · rename_i state response acted
      simp only [Option.some.injEq] at served
      subst next cluster
      refine ⟨?_, readsOwnWrites_of_quiet (by simp [SharedSystem.client, SharedSystem.move])⟩
      rcases sharedServerAct_cases acted with
        ⟨effect, nodeLocal⟩ | ⟨silent, sameKernel, sameHandler, apart⟩
      · refine inv.served (effect.apart (inv.apart address) nodeLocal)
          (effect.request serving) effect.files_kept ?_
        intro answer same
        subst response
        rcases effect.replied with ⟨handle, path, fd, handled, opened⟩ |
          ⟨handle, inputVal, accessfd, offset, failure, ret, handled, allocated, fits, read⟩
        · have carried : system.cluster.transit (.handler address) =
              some (.request address (.openRpc handle path)) := transit_handler handled
          have blocked : system.client.Opens := inv.fits _ _ carried
          subst answer
          exact ⟨blocked, _, carried, rfl⟩
        · have carried : system.cluster.transit (.handler address) =
              some (.request address (.readRpc handle inputVal accessfd offset)) :=
            transit_handler handled
          obtain ⟨fd, count, reading, own⟩ := inv.handlerRead_own handled allocated fits
          subst answer
          exact ⟨⟨fd, count, offset, reading, own⟩, _, carried, rfl⟩
      · subst response
        refine inv.served (apart (inv.apart address)) (Or.inl ⟨by rw [sameHandler], rfl⟩)
          (Or.inr ?_) (by simp)
        rw [sameKernel]
        exact fun fd after opened => ⟨after, opened, rfl⟩

/-! Whole runs. -/

theorem SharedInv.step (inv : SharedInv system) {action : SharedAction}
    (served : ServedOriginal env system action)
    (stepped : sharedStep env system action = some next) :
    SharedInv next ∧ ReadsOwnWrites system next := by
  cases action with
  | openFile pathname flags create truncate fd => exact inv.openFile stepped
  | write fd position data => exact inv.write stepped
  | pread fd count offset => exact inv.pread served stepped
  | close fd => exact inv.close stepped
  | wake => exact inv.wake stepped
  | deliverRequest id => exact inv.accepted stepped
  | serve address action => exact inv.serve stepped
  | deliverResponse id => exact inv.answered stepped

end

/-- Read-your-own-writes: along a run in which no pread of written bytes is served from a
cached copy, every pread through an `O_RDWR` descriptor returns what was written through it. -/
theorem reads_own_writes (env : ClientEnv) (disk : Disk shared) (earlier : List SharedAction)
    (action : SharedAction) (before after : SharedSystem shared)
    (original : Meets (sharedStep env) (ServedOriginal env) (SharedSystem.initial disk)
      (earlier ++ [action]))
    (ran : run (sharedStep env) (SharedSystem.initial disk) earlier = some before)
    (stepped : sharedStep env before action = some after) : ReadsOwnWrites before after := by
  obtain ⟨met, later⟩ := meets_of_append original
  have inv : SharedInv before :=
    run_invariant_of_meets (fun _ _ _ inv guarded stepped => (inv.step guarded stepped).1)
      (sharedInv_initial disk) met ran
  exact (inv.step (later before ran).1 stepped).2

def readWrite : OpenFlags := { access := .readWrite, append := false }

def oneDisk : Disk (fun path => decide (path = "/d/f")) where
  files := oneFile
  placed := by
    intro path present
    simp only [oneFile] at present
    split at present
    · rename_i same
      simpa using same
    · simp at present

def writeThenRead : List SharedAction := [
  .openFile "/d/f" readWrite false false 3, .deliverRequest 0, .serve "s0" .redirect,
  .serve "s0" (.openFile 5), .deliverResponse 1, .wake, .write 3 1 [9], .pread 3 2 0,
  .deliverRequest 2, .serve "s0" (.readFile false), .deliverResponse 3
]

theorem reads_own_writes_writeThenRead : ∃ before after,
    run (sharedStep twoServers) (SharedSystem.initial oneDisk) writeThenRead = some before ∧
      sharedStep twoServers before .wake = some after ∧ before.written 3 1 = some 9 ∧
      after.client.trace = [.opened "/d/f" .readWrite 3,
        .pread 3 2 0 { ret := 2, data := [1, 9] }] ∧ ReadsOwnWrites before after := by
  have reached : (run (sharedStep twoServers) (SharedSystem.initial oneDisk) writeThenRead).map
      (fun before => (before.written 3 1,
        (sharedStep twoServers before .wake).map fun after => after.client.trace)) =
      some (some 9, some [.opened "/d/f" .readWrite 3,
        .pread 3 2 0 { ret := 2, data := [1, 9] }]) := by decide
  obtain ⟨before, ran, facts⟩ := Option.map_eq_some_iff.mp reached
  simp only [Prod.mk.injEq] at facts
  obtain ⟨after, stepped, traced⟩ := Option.map_eq_some_iff.mp facts.2
  exact ⟨before, after, ran, stepped, facts.1, traced,
    reads_own_writes twoServers oneDisk writeThenRead .wake before after (by decide) ran stepped⟩

def writeBehindCopy : List SharedAction :=
  [.serve "s0" .moverLock, .serve "s0" .moverWait, .openFile "/d/f" readOnly false false 3,
    .deliverRequest 0, .serve "s0" .redirect, .serve "s0" (.openFile 5), .deliverResponse 1,
    .wake, .close 3, .deliverRequest 2] ++
  closeAndCopy.map (.serve "s0") ++
  [.openFile "/d/f" readWrite false false 3, .deliverRequest 3, .serve "s0" .redirect,
    .serve "s0" (.openFile 5), .deliverResponse 4, .wake, .write 3 1 [9], .pread 3 2 0,
    .deliverRequest 5, .serve "s0" (.readFile false), .deliverResponse 6]

theorem copy_hides_writes : ¬ ∀ (shared : String → Bool) (env : ClientEnv) (disk : Disk shared)
    (earlier : List SharedAction) (action : SharedAction) (before after : SharedSystem shared),
    run (sharedStep env) (SharedSystem.initial disk) earlier = some before →
    sharedStep env before action = some after → ReadsOwnWrites before after := by
  intro own
  have reached : (run (sharedStep twoServers) (SharedSystem.initial oneDisk)
      writeBehindCopy).map (fun before => (before.written 3 1, before.client.kernel[(3 : Int)]?,
        before.client.trace,
        (sharedStep twoServers before .wake).map fun after => after.client.trace)) =
      some (some 9, some { file := "/d/f", mode := .readWrite, position := 0 },
        [.opened "/d/f" .readOnly 3, .closed 3 0, .opened "/d/f" .readWrite 3],
        some [.opened "/d/f" .readOnly 3, .closed 3 0, .opened "/d/f" .readWrite 3,
          .pread 3 2 0 { ret := 2, data := [1, 2] }]) := by decide
  obtain ⟨before, ran, facts⟩ := Option.map_eq_some_iff.mp reached
  simp only [Prod.mk.injEq] at facts
  obtain ⟨noted, opened, earlier, last⟩ := facts
  obtain ⟨after, stepped, traced⟩ := Option.map_eq_some_iff.mp last
  have read := own _ twoServers oneDisk writeBehindCopy .wake before after ran stepped 3 2 0
    { ret := 2, data := [1, 2] } (by rw [traced, earlier]; rfl) _ opened rfl (by decide)
    (by decide) 1 (by decide) 9 noted
  simp at read

end HvacCache
