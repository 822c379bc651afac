import HvacCache.BulkTransfer
import HvacCache.Mirror

/-! The simulation of plain calls by the whole cluster: server steps, answers and calls
each leave every client with a plain table to match. -/

namespace HvacCache

open Posix Transit Transition

/-- A descriptor on its way to the client that opened it is at the start of its file. -/
def Unread (cluster : Cluster) : Prop :=
  ∀ site address handle remote,
    cluster.transit site = some (.response address (.openOut handle remote)) →
    ∃ descriptor, (cluster.servers address).kernel[remote]? = some descriptor ∧
      descriptor.position = 0

structure Transparent (env : Nat → ClientEnv) (contents : String → Option Bytes)
    (cluster : Cluster) : Prop where
  agreement : Agreement env contents cluster
  unread : Unread cluster
  mirrors : ∀ client, ∃ table shown, Mirror env contents cluster client table shown

section
variable {env : Nat → ClientEnv} {contents : String → Option Bytes} {cluster next : Cluster}
  {table shown : Table}

theorem transparent_initial : Transparent env contents Cluster.initial := by
  refine ⟨agreement_initial, ?_, ?_⟩
  · intro site address handle remote found
    simp at found
  · intro client
    refine ⟨∅, ∅, rfl, fun _ _ _ => rfl, ?_, ?_, ?_, ?_, ?_, ?_, ?_, ?_, ?_⟩
    · intro fd path tracked
      simp [Cluster.initial, Client.initial] at tracked
    · intro file mode fd opening
      simp [Cluster.initial, Client.initial] at opening
    · intro fd reading
      simp [Cluster.initial, Client.initial, ClientPc.reading?] at reading
    · trivial
    · intro site address handle inputVal accessfd offset found
      simp at found
    · intro site address handle ret pushed found
      simp at found
    · intro ready
      simp [Cluster.initial, Client.initial, Completion.initial, Completion.ready] at ready
    · refine Or.inr ⟨rfl, ?_⟩
      intro site address handle inputVal accessfd offset found
      simp at found
    · intro fd address remote held
      simp [Cluster.initial, Client.initial, Client.entry] at held

section
variable {client : Nat}

/-! Servers. -/

theorem ServerEffect.read_or_keeps {server state : Server} {action : ServerAction}
    {response : Option Response} (effect : ServerEffect contents server action state response)
    (succeeds : action ≠ .openFile (-1)) :
    (∃ handle inputVal accessfd offset failure, action = .readFile failure ∧
      server.handler = .readRpc handle inputVal accessfd offset ∧
      state.kernel = (handlerRead contents server failure accessfd (uint64 inputVal) offset).2 ∧
      state.handler.request? = none ∧
      (uint64 (handlerRead contents server failure accessfd (uint64 inputVal) offset).1.ret ≤
          uint64 inputVal →
        response = some (.rpcOut handle
          (int32 (uint64
            (handlerRead contents server failure accessfd (uint64 inputVal) offset).1.ret))
          (handlerRead contents server failure accessfd (uint64 inputVal) offset).1.data))) ∨
    ((∀ (fd : Int) (descriptor : Descriptor), server.kernel[fd]? = some descriptor →
        server.handler ≠ .closeRpc fd → state.kernel[fd]? = some descriptor) ∧
      ∀ answer, response = some answer → ∃ handle fd descriptor, answer = .openOut handle fd ∧
        state.kernel[fd]? = some descriptor ∧ descriptor.position = 0) := by
  cases effect with
  | openFailed handle path redirPath opening => exact absurd rfl succeeds
  | opened handle path redirPath newFd opening unused present =>
      refine Or.inr ⟨?_, ?_⟩
      · intro fd descriptor found _
        have different : newFd ≠ fd := by
          intro same
          subst newFd
          simp [unused.2] at found
        rw [OrderedMap.getElem?_insert_ite, if_neg different]
        exact found
      · intro answer same
        exact ⟨handle, newFd, { file := redirPath, mode := .readOnly, position := 0 },
          (Option.some.inj same).symm, by simp, rfl⟩
  | readDone handle inputVal accessfd offset failure outcome reading allocated result fits =>
      subst outcome
      exact Or.inl ⟨handle, inputVal, accessfd, offset, failure, rfl, reading, rfl, rfl,
        fun _ => rfl⟩
  | readOverrun handle inputVal accessfd offset failure outcome reading allocated result overrun =>
      subst outcome
      exact Or.inl ⟨handle, inputVal, accessfd, offset, failure, rfl, reading, rfl, rfl,
        fun fits => absurd fits overrun⟩
  | closed fd descriptor closing found =>
      refine Or.inr ⟨?_, by simp⟩
      intro other otherDescriptor otherFound notClosing
      have different : fd ≠ other := by
        intro same
        exact notClosing (same ▸ closing)
      rw [OrderedMap.getElem?_erase_ite, if_neg different]
      exact otherFound
  | _ => exact Or.inr ⟨fun _ _ found _ => found, by simp⟩

theorem Mirror.request_view (mirror : Mirror env contents cluster client table shown)
    (inv : Agreement env contents cluster) {site : Site} {address : String} {handle : Handle}
    {inputVal accessfd offset : Int} (caller : handle.client = client)
    (carried : cluster.transit site =
      some (.request address (.readRpc handle inputVal accessfd offset))) :
    ∃ (fd : Int) (count : Nat) (plain descriptor : Descriptor) (bytes : Bytes),
      (cluster.clients client).entry (env client) fd = some (address, accessfd) ∧
      inputVal = count ∧ count < 2 ^ 31 ∧
      (((cluster.clients client).pc = .readBlock fd count ∧ offset = -1) ∨
        (cluster.clients client).pc = .preadBlock fd count offset) ∧
      shown = table ∧ table[fd]? = some plain ∧ Posix.readable contents plain = some bytes ∧
      (cluster.servers address).kernel[accessfd]? = some descriptor ∧
      Posix.readable ((cluster.servers address).files contents) descriptor = some bytes ∧
      descriptor.position = plain.position := by
  obtain ⟨fd, count, held, sameVal, bound, blocks⟩ :=
    mirror.asks site address handle inputVal accessfd offset carried caller
  have reading : (cluster.clients client).pc.reading? = some fd := by
    rcases blocks with ⟨same, _⟩ | same <;> simp [same, ClientPc.reading?]
  have unserved : shown = table := by
    rcases mirror.stage with ⟨same, _⟩ | ⟨_, silent⟩
    · exact same
    · exact absurd caller (silent site address handle inputVal accessfd offset carried)
  obtain ⟨path, plain, bytes, tracked, found, _, _, source, visible⟩ := mirror.readable fd reading
  obtain ⟨original, sameTracked, redirected, located⟩ := entry_eq_some.mp held
  have samePath : path = original := Option.some.inj (tracked.symm.trans sameTracked)
  subst original
  have recorded := inv.paths client fd accessfd path address tracked redirected located
  obtain ⟨descriptor, place, opened, shownFound, position⟩ :=
    mirror.positions fd address accessfd held
  rw [unserved, found, Option.some.injEq] at shownFound
  refine ⟨fd, count, plain, descriptor, bytes, held, sameVal, bound, blocks, unserved, found,
    visible, opened, ?_, shownFound ▸ position⟩
  exact (inv.descriptors address).readable (inv.stores address) opened recorded source

theorem Mirror.servedRead (mirror : Mirror env contents cluster client table shown)
    (inv : Agreement env contents cluster) {address : String} {handle : Handle}
    {inputVal accessfd offset : Int} (caller : handle.client = client)
    (handling : (cluster.servers address).handler = .readRpc handle inputVal accessfd offset) :
    ∃ result after,
      handlerRead contents (cluster.servers address) false accessfd (uint64 inputVal) offset =
        (result, after) ∧
      uint64 result.ret ≤ uint64 inputVal ∧ int32 (uint64 result.ret) = result.ret ∧
      (cluster.clients client).pc.result contents table = some result ∧
      ∀ fd, (cluster.clients client).entry (env client) fd = some (address, accessfd) →
        ∃ descriptor place, after[accessfd]? = some descriptor ∧
          ((cluster.clients client).pc.finished contents table)[fd]? = some place ∧
          descriptor.position = place.position := by
  have carried : cluster.transit (.handler address) =
      some (.request address (.readRpc handle inputVal accessfd offset)) :=
    transit_handler (by rw [handling]; rfl)
  obtain ⟨fd, count, plain, descriptor, bytes, held, sameVal, bound, blocks, _, found, visible,
    opened, served, position⟩ := mirror.request_view inv caller carried
  have sameCount : uint64 inputVal = count := by
    rw [sameVal, uint64_of_nonneg (by omega) (by omega), Int.toNat_natCast]
  have sameFd : ∀ other, (cluster.clients client).entry (env client) other =
      some (address, accessfd) → other = fd := by
    intro other otherHeld
    exact (inv.holder_unique otherHeld held).2
  have fits : ∀ start : Nat, uint64 (delivered (slice bytes start count)).ret ≤ count := by
    intro start
    obtain ⟨within, small⟩ := slice_length_le bytes start count
    simp only [maxTransfer] at small
    simp only [delivered]
    rw [uint64_of_nonneg (by omega) (by omega)]
    omega
  obtain ⟨readCase, preadCase⟩ := handlerRead_of_readable opened served count
  have small : count < 2 ^ 63 := by omega
  rw [sameCount]
  rcases blocks with ⟨blocked, sameOffset⟩ | blocked
  · subst offset
    refine ⟨_, _, readCase small, fits _, int32_uint64_delivered _ _ _, ?_, ?_⟩
    · simp only [blocked, ClientPc.result, read_of_readable found visible small, position]
    · intro other otherHeld
      rw [sameFd other otherHeld]
      refine ⟨_, { plain with
        position := plain.position + (slice bytes plain.position count).length },
        Std.ExtTreeMap.getElem?_insert_self, ?_, ?_⟩
      · simp only [blocked, ClientPc.finished, read_of_readable found visible small]
        exact Std.ExtTreeMap.getElem?_insert_self
      · simp only [position]
  · obtain ⟨lower, upper⟩ : (ClientPc.preadBlock fd count offset).Placed :=
      blocked ▸ mirror.placed
    refine ⟨_, _, preadCase offset lower upper, fits _, int32_uint64_delivered _ _ _, ?_, ?_⟩
    · simp only [blocked, ClientPc.result, pread_of_readable found visible lower upper]
    · intro other otherHeld
      rw [sameFd other otherHeld]
      refine ⟨descriptor, plain, opened, ?_, position⟩
      simpa only [blocked, ClientPc.finished] using found

end

theorem handlerRead_other (server : Server) (failure : Bool) (size : Nat) (offset : Int)
    {accessfd fd : Int} (different : fd ≠ accessfd) :
    (handlerRead contents server failure accessfd size offset).2[fd]? = server.kernel[fd]? := by
  unfold handlerRead
  split
  · rfl
  · split
    · exact read_other different
    · rfl

theorem transit_served {address : String} {state : Server} (response : Option Response)
    (request : state.handler.request? = (cluster.servers address).handler.request? ∨
      state.handler.request? = none) {site : Site} {message : Message}
    (found : ((cluster.setServer address state).post (response.map (.response address))).transit
      site = some message) :
    (cluster.transit site = some message ∧
      (state.handler.request? = none → site ≠ .handler address)) ∨
    ∃ answer, response = some answer ∧ message = .response address answer := by
  have moved : (cluster.setServer address state).transit site = some message ∨
      ∃ answer, response = some answer ∧ message = .response address answer := by
    cases response with
    | none => exact Or.inl found
    | some answer =>
        rcases flow_post _ site message found with ⟨old, _⟩ | new
        · exact Or.inl old
        · simp only [Option.some.injEq, Prod.mk.injEq] at new
          exact Or.inr ⟨answer, rfl, new.2.symm⟩
  refine moved.imp_left fun old => ?_
  by_cases dropped : state.handler.request? = none
  · obtain ⟨before, notTaken⟩ := (flow_serve_drop dropped site message old).resolve_right (by simp)
    exact ⟨before, fun _ same => notTaken (by rw [same])⟩
  · obtain ⟨before, _⟩ :=
      (flow_serve_keep (request.resolve_right dropped) site message old).resolve_right (by simp)
    exact ⟨before, fun none => absurd none dropped⟩

theorem Mirror.position_other {client : Nat}
    (mirror : Mirror env contents cluster client table shown)
    (inv : Agreement env contents cluster) {fd other : Int} {address otherAddress : String}
    {accessfd remote : Int} {size : Nat} {offset : Int} {state : Server}
    (held : (cluster.clients client).entry (env client) fd = some (address, accessfd))
    (otherHeld : (cluster.clients client).entry (env client) other = some (otherAddress, remote))
    (different : other ≠ fd)
    (kernel : state.kernel =
      (handlerRead contents (cluster.servers address) false accessfd size offset).2) :
    ∃ descriptor place,
      ((cluster.setServer address state).servers otherAddress).kernel[remote]? = some descriptor ∧
        shown[other]? = some place ∧ descriptor.position = place.position := by
  obtain ⟨descriptor, place, opened, matched, position⟩ :=
    mirror.positions other otherAddress remote otherHeld
  refine ⟨descriptor, place, ?_, matched, position⟩
  by_cases sameAddress : otherAddress = address
  · subst otherAddress
    have apart : remote ≠ accessfd := by
      intro sameRemote
      subst remote
      exact different (inv.holder_unique otherHeld held).2
    rw [servers_setServer_same, kernel, handlerRead_other _ _ _ _ apart]
    exact opened
  · rw [servers_setServer_other state sameAddress]
    exact opened

theorem Mirror.answerRead {client : Nat} (mirror : Mirror env contents cluster client table shown)
    (inv : Agreement env contents cluster) {address : String} {state : Server} {handle : Handle}
    {inputVal accessfd offset : Int} (caller : handle.client = client)
    (handling : (cluster.servers address).handler = .readRpc handle inputVal accessfd offset)
    (dropped : state.handler.request? = none) {result : ReadResult}
    (kernel : state.kernel =
      (handlerRead contents (cluster.servers address) false accessfd (uint64 inputVal) offset).2)
    (plain : (cluster.clients client).pc.result contents table = some result)
    (moved : ∀ fd, (cluster.clients client).entry (env client) fd = some (address, accessfd) →
      ∃ descriptor place, state.kernel[accessfd]? = some descriptor ∧
        ((cluster.clients client).pc.finished contents table)[fd]? = some place ∧
        descriptor.position = place.position) :
    Mirror env contents
      ((cluster.setServer address state).post
        (some (.response address (.rpcOut handle result.ret result.data))))
      client table ((cluster.clients client).pc.finished contents table) := by
  have carried : cluster.transit (.handler address) =
      some (.request address (.readRpc handle inputVal accessfd offset)) :=
    transit_handler (by rw [handling]; rfl)
  obtain ⟨fd, count, _, _, _, held, _, _, blocks, unserved, _⟩ :=
    mirror.request_view inv caller carried
  obtain ⟨_, _, unset⟩ := inv.expected _ _ carried
  have silent : ∀ site message,
      ((cluster.setServer address state).post
        (some (.response address (.rpcOut handle result.ret result.data)))).transit site =
        some message → message.client? = some client →
      message = .response address (.rpcOut handle result.ret result.data) := by
    intro site message found sameCaller
    rcases transit_served (some (.rpcOut handle result.ret result.data)) (Or.inr dropped)
      found with ⟨old, notHandler⟩ | ⟨answer, same, sent⟩
    · have same := inv.callers site _ _ _ client old carried sameCaller
        (by simp [Message.client?, caller])
      exact absurd same (notHandler dropped)
    · rw [sent, ← Option.some.inj same]
  refine ⟨?_, ?_, ?_, ?_, ?_, ?_, ?_, ?_, ?_, ?_, ?_⟩
  all_goals simp only [clients_post, servers_post, clients_setServer]
  · exact mirror.replayed
  · exact mirror.untracked
  · exact mirror.tracked
  · exact mirror.opening
  · exact mirror.reading
  · exact mirror.placed
  · intro site otherAddress otherHandle otherVal otherFd otherOffset found otherCaller
    have same := silent site _ found (by simp [Message.client?, otherCaller])
    simp at same
  · intro site otherAddress otherHandle ret pushed found otherCaller
    have same := silent site _ found (by simp [Message.client?, Response.client, otherCaller])
    simp only [Message.response.injEq, Response.rpcOut.injEq] at same
    rw [plain, same.2.2.1, same.2.2.2]
  · intro ready
    subst client
    simp [Completion.ready, unset] at ready
  · refine Or.inr ⟨trivial, ?_⟩
    intro site otherAddress otherHandle otherVal otherFd otherOffset found otherCaller
    have same := silent site _ found (by simp [Message.client?, otherCaller])
    simp at same
  · intro other otherAddress remote otherHeld
    by_cases sameOwner : other = fd
    · subst other
      rw [held, Option.some.injEq, Prod.mk.injEq] at otherHeld
      obtain ⟨sameAddress, sameRemote⟩ := otherHeld
      subst otherAddress remote
      simpa only [servers_setServer_same] using moved fd held
    · obtain ⟨descriptor, place, opened, matched, position⟩ :=
        mirror.position_other inv held otherHeld sameOwner kernel
      refine ⟨descriptor, place, opened, ?_, position⟩
      rw [unserved] at matched
      rcases blocks with ⟨blocked, _⟩ | blocked
      · simp only [blocked, ClientPc.finished]
        rw [read_other sameOwner]
        exact matched
      · simpa only [blocked, ClientPc.finished] using matched

/-! Steps of the cluster. -/

theorem Unread.frame (unread : Unread cluster)
    (step : ∀ site address handle remote,
      next.transit site = some (.response address (.openOut handle remote)) →
      (∃ before, cluster.transit before = some (.response address (.openOut handle remote)) ∧
        ∀ descriptor, (cluster.servers address).kernel[remote]? = some descriptor →
          (next.servers address).kernel[remote]? = some descriptor) ∨
      ∃ descriptor, (next.servers address).kernel[remote]? = some descriptor ∧
        descriptor.position = 0) : Unread next := by
  intro site address handle remote found
  rcases step site address handle remote found with ⟨before, old, kept⟩ | new
  · obtain ⟨descriptor, opened, position⟩ := unread before address handle remote old
    exact ⟨descriptor, kept descriptor opened, position⟩
  · exact new

theorem ClientEffect.outgoing_reader {self : Nat} {client state : Client} {environment : ClientEnv}
    {action : ClientAction} {address : String} {request : Request}
    (effect : ClientEffect environment contents self client action state (some (address, request))) :
    (Message.request address request).reader? = none ∨
      (Message.request address request).reader? = some self := by
  cases effect with
  | openTracked => exact Or.inl rfl
  | readTracked => exact Or.inr rfl
  | preadTracked => exact Or.inr rfl
  | closeTracked => exact Or.inl rfl

theorem Transparent.called (trans : Transparent env contents cluster) {client : Nat}
    {action : ClientAction} {state : Client} {outgoing : Outgoing}
    (effect : ClientEffect (env client) contents client (cluster.clients client) action state
      outgoing) (servable : Servable cluster (.call client action)) :
    Transparent env contents ((cluster.setClient client state).post
      (outgoing.map fun sent => .request sent.1 sent.2)) := by
  have moved : ∀ site message, ((cluster.setClient client state).post
      (outgoing.map fun sent => .request sent.1 sent.2)).transit site = some message →
      cluster.transit site = some message ∨
        ∃ address request, outgoing = some (address, request) ∧
          message = .request address request := by
    intro site message found
    cases outgoing with
    | none =>
        refine Or.inl ?_
        simpa only [Option.map_none, Cluster.post, transit_setClient] using found
    | some sent =>
        rcases flow_post _ site message found with ⟨old, _⟩ | new
        · exact Or.inl (by simpa only [transit_setClient] using old)
        · simp only [Option.some.injEq, Prod.mk.injEq] at new
          exact Or.inr ⟨sent.1, sent.2, rfl, new.2.symm⟩
  refine ⟨effect.agreement trans.agreement, trans.unread.frame ?_, ?_⟩
  · intro site address handle remote found
    rcases moved site _ found with old | ⟨_, _, _, same⟩
    · exact Or.inl ⟨site, old, by simp⟩
    · simp at same
  · intro other
    obtain ⟨table, shown, mirror⟩ := trans.mirrors other
    by_cases same : other = client
    · subst other
      exact effect.mirror servable trans.agreement mirror
    · refine ⟨table, shown, mirror.frame ?_ ?_ (by simp)⟩
      · simp only [clients_post, clients_setClient_other state same]
      · intro site message found reader
        rcases moved site message found with old | ⟨address, request, sent, sameMessage⟩
        · exact ⟨site, old⟩
        · subst outgoing message
          rcases effect.outgoing_reader with silent | own
          · simp [silent] at reader
          · rw [own, Option.some.injEq] at reader
            exact absurd reader.symm same

theorem Transparent.accepted (trans : Transparent env contents cluster) {id : Nat}
    {address : String} {request : Request} {state : Server}
    (found : cluster.net[id]? = some (.request address request))
    (effect : ServerEffect contents (cluster.servers address) (.accept request) state none) :
    Transparent env contents ((cluster.take id).setServer address state) := by
  have sameKernel : ∀ other, (((cluster.take id).setServer address state).servers other).kernel =
      (cluster.servers other).kernel := by
    intro other
    by_cases here : other = address
    · subst other
      rw [servers_setServer_same]
      cases effect <;> rfl
    · rw [servers_setServer_other state here, servers_take]
  have moved : ∀ site message,
      ((cluster.take id).setServer address state).transit site = some message →
      ∃ before, cluster.transit before = some message := by
    intro site message carried
    have accept : Flow (cluster.take id).transit
        ((cluster.take id).setServer address state).transit none
        (some (.handler address, .request address request)) := flow_accept effect
    rcases accept site message carried with ⟨old, _⟩ | new
    · obtain ⟨before, _⟩ := (flow_take id site message old).resolve_right (by simp)
      exact ⟨site, before⟩
    · simp only [Option.some.injEq, Prod.mk.injEq] at new
      exact ⟨.net id, new.2 ▸ found⟩
  refine ⟨trans.agreement.accept found effect, trans.unread.frame ?_, ?_⟩
  · intro site other handle remote carried
    obtain ⟨before, old⟩ := moved site _ carried
    refine Or.inl ⟨before, old, ?_⟩
    rw [sameKernel]
    exact fun _ opened => opened
  · intro client
    obtain ⟨table, shown, mirror⟩ := trans.mirrors client
    refine ⟨table, shown,
      mirror.frame rfl (fun site message carried _ => moved site message carried) ?_⟩
    intro fd other remote descriptor _ opened
    rw [sameKernel]
    exact opened

theorem Mirror.receiveOpen {client : Nat}
    (mirror : Mirror env contents cluster client table shown) (noCall : NoCall next client)
    {file : String} {mode : AccessMode} {fd remote : Int} {path address : String}
    {descriptor : Descriptor}
    (blocked : (cluster.clients client).pc = .openBlock file mode fd)
    (tracked : (cluster.clients client).fdMap[fd]? = some path)
    (located : addressOf (env client) path = some address)
    (opened : (cluster.servers address).kernel[remote]? = some descriptor)
    (start : descriptor.position = 0) (sameServers : next.servers = cluster.servers) :
    Mirror env contents (next.setClient client { cluster.clients client with
      fdRedirMap := (cluster.clients client).fdRedirMap.insert fd remote
      completion := (cluster.clients client).completion.openCb }) client table shown := by
  have served : shown = table.insert fd { file, mode, position := 0 } := by
    rcases mirror.stage with ⟨_, _, reading, _⟩ | ⟨served, _⟩
    · simp [blocked, ClientPc.reading?] at reading
    · rw [served, blocked]
      rfl
  refine ⟨?_, ?_, ?_, ?_, ?_, ?_, ?_, ?_, ?_, ?_, ?_⟩
  all_goals simp only [clients_setClient_same, servers_setClient, transit_setClient]
  · exact mirror.replayed
  · exact mirror.untracked
  · exact mirror.tracked
  · exact mirror.opening
  · exact mirror.reading
  · exact mirror.placed
  · intro site otherAddress handle inputVal accessfd offset found caller
    exact absurd (by simp [Message.client?, caller]) (noCall site _ found)
  · intro site otherAddress handle ret pushed found caller
    exact absurd (by simp [Message.client?, Response.client, caller]) (noCall site _ found)
  · intro _ result plain
    simp [blocked, ClientPc.result] at plain
  · refine Or.inr ⟨by rw [served, blocked]; rfl, ?_⟩
    intro site otherAddress handle inputVal accessfd offset found caller
    exact absurd (by simp [Message.client?, caller]) (noCall site _ found)
  · intro other otherAddress otherRemote held
    obtain ⟨original, stillTracked, redirected, otherLocated⟩ := entry_eq_some.mp held
    rw [sameServers]
    rcases OrderedMap.found_insert redirected with ⟨sameFd, sameRemote⟩ | ⟨_, old⟩
    · subst other otherRemote
      have samePath : path = original := Option.some.inj (tracked.symm.trans stillTracked)
      subst original
      have sameAddress : address = otherAddress := Option.some.inj (located.symm.trans otherLocated)
      subst otherAddress
      exact ⟨descriptor, { file, mode, position := 0 }, opened, by simp [served], start⟩
    · exact mirror.positions other otherAddress otherRemote
        (entry_eq_some.mpr ⟨original, stillTracked, old, otherLocated⟩)

theorem Mirror.receiveRead {client : Nat}
    (mirror : Mirror env contents cluster client table shown) (noCall : NoCall next client)
    {site : Site} {address : String} {handle : Handle} {ret : Int} {pushed : Bytes}
    (caller : handle.client = client)
    (carried : cluster.transit site = some (.response address (.rpcOut handle ret pushed)))
    (sameServers : next.servers = cluster.servers) :
    Mirror env contents (next.setClient client { cluster.clients client with
      buffer := pushed
      completion := (cluster.clients client).completion.readCb ret }) client table shown := by
  have plain := mirror.answers site address handle ret pushed carried caller
  have served : shown = (cluster.clients client).pc.finished contents table := by
    rcases mirror.stage with ⟨_, _, _, silent⟩ | ⟨served, _⟩
    · exact absurd caller (silent site address handle ret pushed carried)
    · exact served
  refine ⟨?_, ?_, ?_, ?_, ?_, ?_, ?_, ?_, ?_, ?_, ?_⟩
  all_goals simp only [clients_setClient_same, servers_setClient, transit_setClient]
  · exact mirror.replayed
  · exact mirror.untracked
  · exact mirror.tracked
  · exact mirror.opening
  · exact mirror.reading
  · exact mirror.placed
  · intro other otherAddress otherHandle inputVal accessfd offset found otherCaller
    exact absurd (by simp [Message.client?, otherCaller]) (noCall other _ found)
  · intro other otherAddress otherHandle otherRet otherPushed found otherCaller
    exact absurd (by simp [Message.client?, Response.client, otherCaller]) (noCall other _ found)
  · intro _ result same
    rw [plain, Option.some.injEq] at same
    exact same.symm
  · refine Or.inr ⟨served, ?_⟩
    intro other otherAddress otherHandle inputVal accessfd offset found otherCaller
    exact absurd (by simp [Message.client?, otherCaller]) (noCall other _ found)
  · rw [sameServers]
    exact mirror.positions

theorem Transparent.answered (trans : Transparent env contents cluster) {id : Nat}
    {address : String} {response : Response} {state : Client}
    (found : cluster.net[id]? = some (.response address response))
    (received : receive (cluster.clients response.client) response = some state) :
    Transparent env contents ((cluster.take id).setClient response.client state) := by
  have carried : cluster.transit (.net id) = some (.response address response) := found
  have flow : Flow cluster.transit (cluster.take id).transit (some (.net id)) none := flow_take id
  have noCall : NoCall (cluster.take id) response.client :=
    trans.agreement.noCall_of_gone carried rfl flow
  have moved : ∀ site message,
      ((cluster.take id).setClient response.client state).transit site = some message →
      ∃ before, cluster.transit before = some message := by
    intro site message present
    rw [transit_setClient] at present
    exact ⟨site, ((flow site message present).resolve_right (by simp)).1⟩
  refine ⟨trans.agreement.answered found received, trans.unread.frame ?_, ?_⟩
  · intro site other handle remote present
    obtain ⟨before, old⟩ := moved site _ present
    exact Or.inl ⟨before, old, fun _ opened => opened⟩
  · intro client
    obtain ⟨table, shown, mirror⟩ := trans.mirrors client
    by_cases same : client = response.client
    · subst client
      refine ⟨table, shown, ?_⟩
      have expected := trans.agreement.expected _ _ carried
      rcases receive_effect received with
        ⟨caller, fd, remote, isOpen, after⟩ | ⟨caller, ret, pushed, isRead, after⟩
      · subst response state
        obtain ⟨path, ⟨file, mode, opening, blocked, callback, tracked, located, _⟩, _⟩ := expected
        simp only [Callback.openCb.injEq] at callback
        subst opening
        obtain ⟨descriptor, opened, start⟩ := trans.unread _ _ _ _ carried
        exact mirror.receiveOpen noCall blocked tracked located opened start rfl
      · subst response state
        exact mirror.receiveRead noCall rfl carried rfl
    · refine ⟨table, shown, mirror.frame (clients_setClient_other state same)
        (fun site message present _ => moved site message present) ?_⟩
      exact fun _ _ _ _ _ opened => opened

theorem Transparent.servedOther (trans : Transparent env contents cluster) {address : String}
    {state : Server} {response : Option Response}
    (stepped : Agreement env contents
      ((cluster.setServer address state).post (response.map (.response address))))
    (request : state.handler.request? = (cluster.servers address).handler.request? ∨
      state.handler.request? = none)
    (kept : ∀ (fd : Int) (descriptor : Descriptor),
      (cluster.servers address).kernel[fd]? = some descriptor →
      (cluster.servers address).handler ≠ .closeRpc fd → state.kernel[fd]? = some descriptor)
    (start : ∀ answer, response = some answer → ∃ handle fd descriptor,
      answer = .openOut handle fd ∧ state.kernel[fd]? = some descriptor ∧
        descriptor.position = 0) :
    Transparent env contents
      ((cluster.setServer address state).post (response.map (.response address))) := by
  -- The handler that closes a descriptor is its only holder.
  have stays : ∀ owner other remote descriptor, owner ≠ .inl (.handler address) →
      cluster.owned env owner = some (other, remote) →
      (cluster.servers other).kernel[remote]? = some descriptor →
      ((cluster.setServer address state).servers other).kernel[remote]? = some descriptor := by
    intro owner other remote descriptor notHandler held opened
    by_cases here : other = address
    · subst other
      rw [servers_setServer_same]
      refine kept remote descriptor opened ?_
      intro closing
      have handling : cluster.owned env (.inl (.handler address)) = some (address, remote) := by
        simp [Cluster.owned, Cluster.transit, closing, HandlerPc.request?, Message.named?]
      exact notHandler (trans.agreement.owners owner _ _ _ _ held handling rfl rfl)
    · rw [servers_setServer_other state here]
      exact opened
  refine ⟨stepped, trans.unread.frame ?_, ?_⟩
  · intro site other handle remote found
    rw [servers_post]
    rcases transit_served response request found with ⟨old, _⟩ | ⟨answer, same, sent⟩
    · refine Or.inl ⟨site, old, fun descriptor opened => ?_⟩
      have held : cluster.owned env (.inl site) = some (other, remote) := by
        simp [Cluster.owned, old, Message.named?]
      refine stays (.inl site) other remote descriptor ?_ held opened
      intro handling
      rw [Sum.inl.inj handling] at old
      simp [Cluster.transit] at old
    · simp only [Message.response.injEq] at sent
      obtain ⟨sameAddress, sameAnswer⟩ := sent
      subst other answer
      obtain ⟨sender, fd, descriptor, sameOpen, opened, position⟩ := start _ same
      simp only [Response.openOut.injEq] at sameOpen
      refine Or.inr ⟨descriptor, ?_, position⟩
      rw [servers_setServer_same, sameOpen.2]
      exact opened
  · intro client
    obtain ⟨table, shown, mirror⟩ := trans.mirrors client
    refine ⟨table, shown, mirror.frame (by simp) ?_ ?_⟩
    · intro site message found reader
      rcases transit_served response request found with ⟨old, _⟩ | ⟨answer, same, sent⟩
      · exact ⟨site, old⟩
      · obtain ⟨sender, fd, descriptor, sameOpen, _⟩ := start answer same
        simp [sent, sameOpen, Message.reader?] at reader
    · intro fd other remote descriptor held opened
      rw [servers_post]
      exact stays (.inr (client, fd)) other remote descriptor (by simp) held opened

theorem Transparent.servedRead (trans : Transparent env contents cluster) {address : String}
    {state : Server} {handle : Handle} {inputVal accessfd offset : Int} {result : ReadResult}
    (stepped : Agreement env contents ((cluster.setServer address state).post
      (some (.response address (.rpcOut handle result.ret result.data)))))
    (handling : (cluster.servers address).handler = .readRpc handle inputVal accessfd offset)
    (dropped : state.handler.request? = none) {after : Table} (kernel : state.kernel = after)
    (read : handlerRead contents (cluster.servers address) false accessfd (uint64 inputVal)
      offset = (result, after)) (mirror : Mirror env contents cluster handle.client table shown)
    (plain : (cluster.clients handle.client).pc.result contents table = some result)
    (moved : ∀ fd, (cluster.clients handle.client).entry (env handle.client) fd =
        some (address, accessfd) →
      ∃ descriptor place, after[accessfd]? = some descriptor ∧
        ((cluster.clients handle.client).pc.finished contents table)[fd]? = some place ∧
        descriptor.position = place.position) :
    Transparent env contents ((cluster.setServer address state).post
      (some (.response address (.rpcOut handle result.ret result.data)))) := by
  have carried : cluster.transit (.handler address) =
      some (.request address (.readRpc handle inputVal accessfd offset)) :=
    transit_handler (by rw [handling]; rfl)
  obtain ⟨readFd, _, readHeld, _⟩ := mirror.asks _ _ _ _ _ _ carried rfl
  -- Nobody but the reader holds the descriptor it reads from.
  have stays : ∀ owner other remote descriptor, owner ≠ .inr (handle.client, readFd) →
      cluster.owned env owner = some (other, remote) →
      (cluster.servers other).kernel[remote]? = some descriptor →
      ((cluster.setServer address state).servers other).kernel[remote]? = some descriptor := by
    intro owner other remote descriptor notReader held opened
    by_cases here : other = address
    · subst other
      have different : remote ≠ accessfd := by
        intro same
        subst remote
        exact notReader (trans.agreement.owners owner (.inr (handle.client, readFd)) _ _ _ held
          readHeld rfl rfl)
      have same : after[remote]? = (cluster.servers address).kernel[remote]? := by
        rw [← handlerRead_other (cluster.servers address) false (uint64 inputVal) offset different,
          read]
      rw [servers_setServer_same, kernel, same]
      exact opened
    · rw [servers_setServer_other state here]
      exact opened
  refine ⟨stepped, trans.unread.frame ?_, ?_⟩
  · intro site other sender remote found
    rw [servers_post]
    rcases transit_served (some (.rpcOut handle result.ret result.data)) (Or.inr dropped) found with
      ⟨old, _⟩ | ⟨answer, same, sent⟩
    · refine Or.inl ⟨site, old, fun descriptor opened => ?_⟩
      have held : cluster.owned env (.inl site) = some (other, remote) := by
        simp [Cluster.owned, old, Message.named?]
      exact stays (.inl site) other remote descriptor (by simp) held opened
    · simp [← Option.some.inj same] at sent
  · intro client
    by_cases same : client = handle.client
    · subst client
      refine ⟨table, _, mirror.answerRead trans.agreement rfl handling dropped ?_ plain ?_⟩
      · rw [read, kernel]
      · rw [kernel]
        exact moved
    · obtain ⟨otherTable, otherShown, otherMirror⟩ := trans.mirrors client
      refine ⟨otherTable, otherShown, otherMirror.frame (by simp) ?_ ?_⟩
      · intro site message found reader
        rcases transit_served (some (.rpcOut handle result.ret result.data)) (Or.inr dropped)
          found with ⟨old, _⟩ | ⟨answer, sameAnswer, sent⟩
        · exact ⟨site, old⟩
        · simp only [sent, ← Option.some.inj sameAnswer, Message.reader?,
            Option.some.injEq] at reader
          exact absurd reader.symm same
      · intro fd other remote descriptor held opened
        rw [servers_post]
        exact stays (.inr (client, fd)) other remote descriptor (by simp [same]) held opened

theorem Transparent.served (trans : Transparent env contents cluster) {address : String}
    {action : ServerAction} {state : Server} {response : Option Response}
    (serving : ∀ request, action ≠ .accept request)
    (effect : ServerEffect contents (cluster.servers address) action state response)
    (servable : Servable cluster (.serve address action)) :
    Transparent env contents
      ((cluster.setServer address state).post (response.map (.response address))) := by
  have succeeds : action ≠ .openFile (-1) := by
    intro failed
    subst action
    exact servable rfl
  have stepped := trans.agreement.served serving succeeds effect
  rcases effect.read_or_keeps succeeds with
    ⟨handle, inputVal, accessfd, offset, failure, isRead, handling, kernel, dropped, answers⟩ |
    ⟨kept, start⟩
  · subst action
    have works : failure = false := servable
    subst failure
    obtain ⟨table, shown, mirror⟩ := trans.mirrors handle.client
    obtain ⟨result, after, read, fits, sent, plain, moved⟩ :=
      mirror.servedRead trans.agreement rfl handling
    rw [read] at kernel answers
    have response_eq := answers fits
    simp only [sent] at response_eq
    subst response
    exact trans.servedRead stepped handling dropped kernel read mirror plain moved
  · exact trans.servedOther stepped ((effect.request serving).imp_left And.left) kept start

theorem ClusterEffect.transparent {action : ClusterAction}
    (effect : ClusterEffect env contents cluster action next) (servable : Servable cluster action)
    (trans : Transparent env contents cluster) : Transparent env contents next := by
  cases effect with
  | called client action state outgoing effect => exact trans.called effect servable
  | accepted id address request state found effect => exact trans.accepted found effect
  | served address action state response serving effect =>
      exact trans.served serving effect servable
  | answered id address response state found received => exact trans.answered found received

end

end HvacCache
