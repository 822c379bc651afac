import HvacCache.CallProgress

/-! No descriptor of a server is forgotten: what is open at a server is held by the entry of a
client, by the answer that brings it to one, or by the close that takes it back. -/

namespace HvacCache

open Posix Transit Transition

/-- A process that has ended has no descriptors. -/
def Server.Holds (server : Server) (fd : Int) : Prop :=
  server.handler ≠ .aborted ∧ (server.kernel[fd]?).isSome

def Cluster.Live (cluster : Cluster) (name : String × Int) : Prop :=
  ((cluster.servers name.1).kernel[name.2]?).isSome

/-- A descriptor whose open is not answered yet has no entry. -/
def Client.Vacant (client : Client) : Prop :=
  ∀ fd, client.awaiting = some fd → client.fdRedirMap[fd]? = none

structure Unleaked (env : Nat → ClientEnv) (cluster : Cluster) : Prop where
  covered : Covered cluster.Live some (cluster.owned env)
  vacant : ∀ client, (cluster.clients client).Vacant

section
variable {env : ClientEnv} {contents : String → Option Bytes} {self : Nat}
  {client next : Client} {action : ClientAction} {outgoing : Outgoing}

theorem vacant_of_settled (settled : client.awaiting = none) : client.Vacant := by
  intro fd awaiting
  simp [settled] at awaiting

theorem ClientEffect.vacant (effect : ClientEffect env contents self client action next outgoing)
    (inv : ClientInv env client) : next.Vacant := by
  cases effect with
  | openTracked pathname flags fd path address cache idle unused present tracked routed =>
      intro other awaiting
      simp only [Client.awaiting, Completion.ready, Completion.resetDone] at awaiting
      obtain rfl : fd = other := by simpa using awaiting
      exact inv.unredirected_of_untracked (inv.untracked_of_unused unused)
  | _ => exact vacant_of_settled rfl

theorem ClientEffect.entries (effect : ClientEffect env contents self client action next outgoing)
    (inv : ClientInv env client) (running : next.pc ≠ .aborted) :
    (∀ (fd : Int) (name : String × Int), client.entry env fd = some name →
      next.entry env fd = some name) ∨
    ∃ fd remote address, client.entry env fd = some (address, remote) ∧
      outgoing = some (address, .closeRpc remote) ∧
      ∀ (other : Int) (name : String × Int), fd ≠ other → client.entry env other = some name →
        next.entry env other = some name := by
  cases effect with
  | openTracked pathname flags fd path address cache idle unused present tracked routed =>
      left
      intro other name held
      obtain ⟨original, stored, redirected, located⟩ := entry_eq_some.mp held
      have different : fd ≠ other := by
        rintro rfl
        simp [inv.untracked_of_unused unused] at stored
      refine entry_eq_some.mpr ⟨original, ?_, redirected, located⟩
      rw [OrderedMap.getElem?_insert_ite, if_neg different]
      exact stored
  | readTracked fd count path address cache idle tracked routed =>
      obtain ⟨remote, _, indexed⟩ := inv.index_remote idle tracked
      left
      rw [indexed]
      exact fun _ _ held => held
  | preadLocal fd count offset path idle tracked unredirected =>
      obtain ⟨remote, _, indexed⟩ := inv.index_remote idle tracked
      left
      rw [indexed]
      exact fun _ _ held => held
  | preadTracked fd count offset path address cache idle tracked redirected routed =>
      obtain ⟨remote, _, indexed⟩ := inv.index_remote idle tracked
      left
      rw [indexed]
      exact fun _ _ held => held
  | closeTracked fd path address cache idle tracked routed =>
      obtain ⟨remote, redirected, indexed⟩ := inv.index_remote idle tracked
      obtain ⟨located, _⟩ := route_address inv.cache routed
      refine Or.inr ⟨fd, remote, address,
        entry_eq_some.mpr ⟨path, tracked, redirected, located⟩, by rw [indexed], ?_⟩
      intro other name different held
      obtain ⟨original, stored, answered, place⟩ := entry_eq_some.mp held
      refine entry_eq_some.mpr ⟨original, ?_, ?_, place⟩
      · simp only [realClose, Client.finish]
        rw [OrderedMap.getElem?_erase_ite, if_neg different]
        exact stored
      · simp only [realClose, Client.finish, indexed]
        rw [OrderedMap.getElem?_erase_ite, if_neg different]
        exact answered
  | aborted action path idle unrouted => exact absurd rfl running
  | _ => exact Or.inl fun _ _ held => held

theorem receive_vacant {response : Response} (received : receive client response = some next)
    (waiting : client.completion.done = 0)
    (reading : ∀ handle ret pushed, response = .rpcOut handle ret pushed →
      Reading client handle.callback) : next.Vacant := by
  apply vacant_of_settled
  rcases receive_effect received with ⟨_, _, _, _, rfl⟩ | ⟨caller, ret, pushed, same, rfl⟩
  · unfold Client.awaiting
    split
    · simp [Completion.ready, Completion.openCb, waiting]
    · rfl
  · obtain ⟨⟨fd, count, blocked⟩ | ⟨fd, count, offset, blocked⟩, _⟩ := reading _ ret pushed same
    · simp [Client.awaiting, blocked]
    · simp [Client.awaiting, blocked]

end

section
variable {contents : String → Option Bytes} {server next : Server} {action : ServerAction}
  {response : Option Response}

theorem ServerEffect.live_of (effect : ServerEffect contents server action next response)
    (serving : ∀ request, action ≠ .accept request) (fd : Int)
    (live : (next.kernel[fd]?).isSome) :
    ((server.kernel[fd]?).isSome ∧
      (next.handler.request? = none → server.handler.request? ≠ some (.closeRpc fd))) ∨
    ∃ handle, response = some (.openOut handle fd) := by
  have same : server.handler.request? ≠ some (.closeRpc fd) → next.kernel = server.kernel →
      ((server.kernel[fd]?).isSome ∧
        (next.handler.request? = none → server.handler.request? ≠ some (.closeRpc fd))) := by
    intro other kept
    exact ⟨kept ▸ live, fun _ => other⟩
  cases effect with
  | acceptOpen | acceptRead | acceptClose => exact absurd rfl (serving _)
  | opened handle path redirPath newFd opening unused present =>
      by_cases own : newFd = fd
      · exact Or.inr ⟨handle, by rw [own]⟩
      · rw [OrderedMap.getElem?_insert_ite, if_neg own] at live
        exact Or.inl ⟨live, by simp [opening, HandlerPc.request?]⟩
  | readDone handle inputVal accessfd offset failure outcome reading allocated result fits =>
      subst outcome
      obtain ⟨shifted, present⟩ := Option.isSome_iff_exists.mp live
      obtain ⟨descriptor, found, _⟩ := (handlerRead_sameFiles contents server failure accessfd
        (uint64 inputVal) offset).symm.found present
      exact Or.inl ⟨by simp [found], by simp [reading, HandlerPc.request?]⟩
  | readOverrun handle inputVal accessfd offset failure outcome reading allocated result overrun =>
      subst outcome
      obtain ⟨shifted, present⟩ := Option.isSome_iff_exists.mp live
      obtain ⟨descriptor, found, _⟩ := (handlerRead_sameFiles contents server failure accessfd
        (uint64 inputVal) offset).symm.found present
      exact Or.inl ⟨by simp [found], by simp [reading, HandlerPc.request?]⟩
  | closed closedFd descriptor closing found =>
      obtain ⟨kept, present⟩ := Option.isSome_iff_exists.mp live
      obtain ⟨different, old⟩ := OrderedMap.found_erase present
      refine Or.inl ⟨by simp [old], fun _ => ?_⟩
      simp [closing, HandlerPc.request?, Ne.symm different]
  | closeFailed closedFd closing missing =>
      refine Or.inl ⟨live, fun _ => ?_⟩
      simp only [closing, HandlerPc.request?, ne_eq, Option.some.injEq, Request.closeRpc.injEq]
      rintro rfl
      simp [missing] at live
  | redirect handle path opening =>
      exact Or.inl (same (by simp [opening, HandlerPc.request?]) rfl)
  | openFailed handle path redirPath opening =>
      exact Or.inl (same (by simp [opening, HandlerPc.request?]) rfl)
  | readUnallocated handle inputVal accessfd offset failure reading negative =>
      exact Or.inl (same (by simp [reading, HandlerPc.request?]) rfl)
  | lockQueue closedFd locking free =>
      exact Or.inl (same (by simp [locking, HandlerPc.request?]) rfl)
  | signalled closedFd before signalling waiting =>
      exact Or.inl (same (by simp [signalling, HandlerPc.request?]) rfl)
  | signalLost closedFd signalling awake =>
      exact Or.inl (same (by simp [signalling, HandlerPc.request?]) rfl)
  | pushPath closedFd pushing => exact Or.inl (same (by simp [pushing, HandlerPc.request?]) rfl)
  | unlockQueue closedFd unlocking =>
      exact Or.inl (same (by simp [unlocking, HandlerPc.request?]) rfl)
  | erasePath closedFd erasing => exact Or.inl (same (by simp [erasing, HandlerPc.request?]) rfl)
  | _ =>
      -- The mover touches neither the handler nor the table.
      refine Or.inl ⟨live, ?_⟩
      intro dropped
      simp only at dropped
      simp [dropped]

end

section
variable {env : Nat → ClientEnv} {contents : String → Option Bytes} {cluster next : Cluster}

/-! What a step leaves where it was. -/

variable (env) in
theorem keeps_post (ids : FreshIds cluster) (message : Option Message) :
    Keeps (cluster.owned env) ((cluster.post message).owned env) none := by
  rintro (site | ⟨client, fd⟩) name held _
  · obtain ⟨carried, present, named⟩ := Option.bind_eq_some_iff.mp held
    refine Option.bind_eq_some_iff.mpr ⟨carried, ?_, named⟩
    cases message with
    | none => exact present
    | some message =>
        cases site with
        | handler address => exact present
        | net id =>
            have bound : id < cluster.nextId := ids id carried present
            simp only [Cluster.transit, Cluster.post]
            rw [OrderedMap.getElem?_insert_ite, if_neg (by omega)]
            exact present
  · simpa only [Cluster.owned, clients_post] using held

theorem keeps_setClient {client : Nat} {state : Client} (removed : Option Int)
    (kept : ∀ (fd : Int) (name : String × Int), removed ≠ some fd →
      (cluster.clients client).entry (env client) fd = some name →
      state.entry (env client) fd = some name) :
    Keeps (cluster.owned env) ((cluster.setClient client state).owned env)
      (removed.map fun fd => .inr (client, fd)) := by
  rintro (site | ⟨other, fd⟩) name held stays
  · simpa only [Cluster.owned, transit_setClient] using held
  · by_cases same : other = client
    · subst other
      simp only [Cluster.owned, clients_setClient_same]
      refine kept fd name ?_ held
      rintro rfl
      exact stays rfl
    · simpa only [Cluster.owned, clients_setClient_other state same] using held

variable (env) in
theorem keeps_take (id : Nat) :
    Keeps (cluster.owned env) ((cluster.take id).owned env) (some (.inl (.net id))) := by
  rintro (site | ⟨client, fd⟩) name held stays
  · obtain ⟨carried, present, named⟩ := Option.bind_eq_some_iff.mp held
    refine Option.bind_eq_some_iff.mpr ⟨carried, ?_, named⟩
    cases site with
    | handler address => exact present
    | net other =>
        have different : ¬ id = other := by
          rintro rfl
          exact stays rfl
        simp only [Cluster.transit, Cluster.take]
        rw [OrderedMap.getElem?_erase_ite, if_neg different]
        exact present
  · exact held

variable (env) in
theorem keeps_setServer (address : String) (state : Server) :
    Keeps (cluster.owned env) ((cluster.setServer address state).owned env)
      (some (.inl (.handler address))) := by
  rintro (site | ⟨client, fd⟩) name held stays
  · obtain ⟨carried, present, named⟩ := Option.bind_eq_some_iff.mp held
    refine Option.bind_eq_some_iff.mpr ⟨carried, ?_, named⟩
    cases site with
    | net id => exact present
    | handler other =>
        have different : other ≠ address := by
          rintro rfl
          exact stays rfl
        simpa only [Cluster.transit, servers_setServer_other state different] using present
  · exact held

theorem named_net {id : Nat} {message : Message} {name : String × Int}
    (found : cluster.net[id]? = some message) :
    cluster.owned env (.inl (.net id)) = some name ↔ message.named? = some name := by
  simp [Cluster.owned, Cluster.transit, found]

theorem named_handler {address other : String} {fd : Int}
    (held : cluster.owned env (.inl (.handler address)) = some (other, fd)) :
    other = address ∧ (cluster.servers address).handler.request? = some (.closeRpc fd) := by
  obtain ⟨message, carried, named⟩ := Option.bind_eq_some_iff.mp held
  obtain ⟨request, handled, rfl⟩ := Option.map_eq_some_iff.mp carried
  cases request with
  | openRpc handle path => simp [Message.named?] at named
  | readRpc handle inputVal accessfd offset => simp [Message.named?] at named
  | closeRpc closing =>
      simp only [Message.named?, Option.some.injEq, Prod.mk.injEq] at named
      exact ⟨named.1.symm, named.2 ▸ handled⟩

theorem named_post (message : Message) :
    (cluster.post (some message)).owned env (.inl (.net cluster.nextId)) = message.named? := by
  simp [Cluster.owned, Cluster.transit, Cluster.post]

theorem ClientEffect.unleaked {client : Nat} {action : ClientAction} {state : Client}
    {outgoing : Outgoing}
    (effect : ClientEffect (env client) contents client (cluster.clients client) action state
      outgoing)
    (inv : Agreement env contents cluster) (running : state.pc ≠ .aborted)
    (unleaked : Unleaked env cluster) :
    Unleaked env
      ((cluster.setClient client state).post (outgoing.map fun sent => .request sent.1 sent.2)) := by
  have vacant : ∀ other, ((cluster.setClient client state).clients other).Vacant :=
    forall_setClient (fun _ state => state.Vacant) unleaked.vacant
      (effect.vacant (inv.clients client))
  refine ⟨?_, by simpa only [clients_post] using vacant⟩
  have ids : FreshIds (cluster.setClient client state) := inv.ids
  have posted := keeps_post env ids (outgoing.map fun sent => .request sent.1 sent.2)
  have live : ∀ name, Cluster.Live
      ((cluster.setClient client state).post (outgoing.map fun sent => .request sent.1 sent.2))
      name → cluster.Live name := by
    intro name live
    simpa only [Cluster.Live, servers_post, servers_setClient] using live
  rcases effect.entries (inv.clients client) running with
    kept | ⟨fd, remote, address, entry, sent, kept⟩
  · have keeps := (keeps_setClient none fun fd name _ held => kept fd name held).trans posted
    refine keeps.covered unleaked.covered ?_
    intro name inUse
    exact Or.inl ⟨live name inUse, by simp⟩
  · have keeps := (keeps_setClient (some fd) fun other name different held =>
      kept other name (by simpa using different) held).trans posted
    refine keeps.covered unleaked.covered ?_
    intro name inUse
    by_cases same : name = (address, remote)
    · right
      refine ⟨.inl (.net cluster.nextId), name, ?_, rfl⟩
      rw [sent, same]
      exact named_post _
    · left
      refine ⟨live name inUse, ?_⟩
      intro place item taken held named
      simp only [Option.map_some, Option.some.injEq] at taken
      subst place
      rw [Option.some.injEq] at named
      subst item
      exact same (Option.some.inj (held.symm.trans entry))

theorem Unleaked.accepted {id : Nat} {address : String} {request : Request} {state : Server}
    (unleaked : Unleaked env cluster)
    (found : cluster.net[id]? = some (.request address request))
    (effect : ServerEffect contents (cluster.servers address) (.accept request) state none) :
    Unleaked env ((cluster.take id).setServer address state) := by
  have quiet : (cluster.servers address).handler.request? = none ∧
      state.handler.request? = some request ∧
      state.kernel = (cluster.servers address).kernel := by
    cases effect with
    | acceptOpen handle path idle => exact ⟨by rw [idle]; rfl, rfl, rfl⟩
    | acceptRead handle inputVal accessfd offset idle => exact ⟨by rw [idle]; rfl, rfl, rfl⟩
    | acceptClose fd idle => exact ⟨by rw [idle]; rfl, rfl, rfl⟩
  obtain ⟨idle, serving, kernel⟩ := quiet
  refine ⟨?_, unleaked.vacant⟩
  have keeps : Keeps (cluster.owned env) (((cluster.take id).setServer address state).owned env)
      (some (.inl (.net id))) := by
    intro place name held stays
    have taken := keeps_take env id place name held stays
    refine keeps_setServer env address state place name taken ?_
    rintro same
    rw [Option.some.injEq] at same
    subst place
    simp [Cluster.owned, Cluster.transit, idle] at held
  refine keeps.covered unleaked.covered ?_
  intro name inUse
  by_cases named : (Message.request address request).named? = some name
  · right
    refine ⟨.inl (.handler address), name, ?_, rfl⟩
    simp [Cluster.owned, Cluster.transit, serving, named]
  · left
    refine ⟨?_, ?_⟩
    · by_cases here : name.1 = address
      · subst address
        simpa only [Cluster.Live, servers_setServer_same, kernel] using inUse
      · simpa only [Cluster.Live, servers_setServer_other state here, servers_take] using inUse
    · rintro place item taken held same
      rw [Option.some.injEq] at taken same
      subst place item
      exact named ((named_net found).mp held)

theorem Unleaked.served {address : String} {action : ServerAction} {state : Server}
    {response : Option Response} (ids : FreshIds cluster) (unleaked : Unleaked env cluster)
    (serving : ∀ request, action ≠ .accept request)
    (effect : ServerEffect contents (cluster.servers address) action state response) :
    Unleaked env ((cluster.setServer address state).post (response.map (.response address))) := by
  refine ⟨?_, by simpa using unleaked.vacant⟩
  have sameIds : FreshIds (cluster.setServer address state) := ids
  have posted := keeps_post env sameIds (response.map (.response address))
  have dropped := (keeps_setServer env address state).trans posted
  have elsewhere : ∀ name : String × Int, name.1 ≠ address →
      Cluster.Live ((cluster.setServer address state).post (response.map (.response address)))
        name → cluster.Live name := by
    intro name different inUse
    simpa only [Cluster.Live, servers_post, servers_setServer_other state different] using inUse
  have opened : ∀ fd, Cluster.Live
      ((cluster.setServer address state).post (response.map (.response address))) (address, fd) →
      (state.kernel[fd]?).isSome := by
    intro fd inUse
    simpa only [Cluster.Live, servers_post, servers_setServer_same] using inUse
  rcases effect.request serving with ⟨kept, silent⟩ | gone
  · -- The handler goes on with its request, if it has one.
    have keeps : Keeps (cluster.owned env) (((cluster.setServer address state).post
        (response.map (.response address))).owned env) none := by
      intro place name held _
      by_cases own : some place = some (.inl (.handler address))
      · rw [Option.some.injEq] at own
        subst place
        refine posted _ name ?_ (by simp)
        simpa [Cluster.owned, Cluster.transit, kept] using held
      · exact dropped place name held own
    refine keeps.covered unleaked.covered ?_
    rintro ⟨other, fd⟩ inUse
    left
    refine ⟨?_, by simp⟩
    by_cases here : other = address
    · subst other
      rcases effect.live_of serving fd (opened fd inUse) with ⟨old, _⟩ | ⟨handle, answered⟩
      · exact old
      · simp [silent] at answered
    · exact elsewhere (other, fd) here inUse
  · refine dropped.covered unleaked.covered ?_
    rintro ⟨other, fd⟩ inUse
    by_cases here : other = address
    · subst other
      rcases effect.live_of serving fd (opened fd inUse) with ⟨old, others⟩ | ⟨handle, answered⟩
      · left
        refine ⟨old, ?_⟩
        rintro place item taken held same
        rw [Option.some.injEq] at taken same
        subst place item
        exact others gone (named_handler held).2
      · right
        refine ⟨.inl (.net cluster.nextId), (address, fd), ?_, rfl⟩
        rw [answered]
        exact named_post _
    · left
      refine ⟨elsewhere (other, fd) here inUse, ?_⟩
      rintro place item taken held same
      rw [Option.some.injEq] at taken same
      subst place item
      exact here (named_handler held).1

theorem Unleaked.answered {id : Nat} {address : String} {response : Response} {state : Client}
    (unleaked : Unleaked env cluster) (inv : Agreement env contents cluster)
    (found : cluster.net[id]? = some (.response address response))
    (received : receive (cluster.clients response.client) response = some state) :
    Unleaked env ((cluster.take id).setClient response.client state) := by
  have expected := inv.expected (.net id) _ found
  have waiting : (cluster.clients response.client).completion.done = 0 := by
    cases response with
    | openOut handle remote =>
        obtain ⟨path, ⟨file, mode, fd, _, _, _, _, unset⟩, _⟩ := expected
        exact unset
    | rpcOut handle ret pushed => exact expected.2.2
  have reading : ∀ handle ret pushed, response = .rpcOut handle ret pushed →
      Reading (cluster.clients response.client) handle.callback := by
    rintro handle ret pushed rfl
    exact expected
  have vacant : ∀ other, (((cluster.take id).setClient response.client state).clients other).Vacant :=
    forall_setClient (fun _ state => state.Vacant) unleaked.vacant
      (receive_vacant received waiting reading)
  refine ⟨?_, vacant⟩
  have taken : Keeps (cluster.owned env) ((cluster.take id).owned env) (some (.inl (.net id))) :=
    keeps_take env id
  rcases receive_effect received with
    ⟨caller, fd, remote, same, after⟩ | ⟨caller, ret, pushed, same, after⟩
  · subst response state
    obtain ⟨path, ⟨file, mode, opening, blocked, callback, tracked, located, unset⟩, _⟩ := expected
    simp only [Callback.openCb.injEq] at callback
    subst opening
    -- The descriptor that comes back replaces no other one.
    have empty : (cluster.clients caller).fdRedirMap[fd]? = none :=
      unleaked.vacant caller fd (by simp [Client.awaiting, blocked, Completion.ready, unset])
    have kept : ∀ (other : Int) (name : String × Int), none ≠ some other →
        ((cluster.take id).clients caller).entry (env caller) other = some name →
        Client.entry (env caller) { cluster.clients caller with
          fdRedirMap := (cluster.clients caller).fdRedirMap.insert fd remote
          completion := (cluster.clients caller).completion.openCb } other = some name := by
      intro other name _ held
      obtain ⟨original, stored, redirected, place⟩ := entry_eq_some.mp held
      have different : fd ≠ other := by
        rintro rfl
        simp [empty] at redirected
      refine entry_eq_some.mpr ⟨original, stored, ?_, place⟩
      rw [OrderedMap.getElem?_insert_ite, if_neg different]
      exact redirected
    refine (taken.trans (keeps_setClient none kept)).covered unleaked.covered ?_
    intro name inUse
    by_cases brought : name = (address, remote)
    · right
      refine ⟨.inr (caller, fd), name, ?_, rfl⟩
      simp only [Cluster.owned, clients_setClient_same]
      rw [brought]
      exact entry_eq_some.mpr ⟨path, tracked, by simp, located⟩
    · left
      refine ⟨inUse, ?_⟩
      rintro place item moved held named
      rw [Option.some.injEq] at moved named
      subst place item
      have answer := (named_net found).mp held
      simp only [Message.named?, Option.some.injEq] at answer
      exact brought answer.symm
  · subst response state
    have kept : ∀ (other : Int) (name : String × Int), none ≠ some other →
        ((cluster.take id).clients caller).entry (env caller) other = some name →
        Client.entry (env caller) { cluster.clients caller with
          buffer := pushed
          completion := (cluster.clients caller).completion.readCb ret } other = some name :=
      fun _ _ _ held => held
    refine (taken.trans (keeps_setClient none kept)).covered unleaked.covered ?_
    intro name inUse
    left
    refine ⟨inUse, ?_⟩
    rintro place item moved held named
    rw [Option.some.injEq] at moved
    subst place
    have answer := (named_net found).mp held
    simp [Message.named?] at answer

theorem ClusterEffect.unleaked {action : ClusterAction}
    (effect : ClusterEffect env contents cluster action next)
    (registered : ∀ client, Registered (env client)) (inv : Agreement env contents cluster)
    (unleaked : Unleaked env cluster) : Unleaked env next := by
  cases effect with
  | called client action state outgoing effect =>
      exact effect.unleaked inv (effect.running (registered client)) unleaked
  | accepted id address request state found effect => exact unleaked.accepted found effect
  | served address action state response serving effect =>
      exact unleaked.served inv.ids serving effect
  | answered id address response state found received =>
      exact unleaked.answered inv found received

theorem unleaked_initial : Unleaked env Cluster.initial := by
  constructor
  · intro name live
    simp [Cluster.Live, Cluster.initial, Server.initial] at live
  · intro client
    exact vacant_of_settled rfl

theorem run_unleaked {actions : List ClusterAction}
    (registered : ∀ client, Registered (env client))
    (succeed : Meets (clusterStep env contents) OpensSucceed Cluster.initial actions)
    (ran : run (clusterStep env contents) Cluster.initial actions = some cluster) :
    Agreement env contents cluster ∧ Unleaked env cluster := by
  have preserved : ∀ before action after,
      Agreement env contents before ∧ Unleaked env before → OpensSucceed before action →
      clusterStep env contents before action = some after →
      Agreement env contents after ∧ Unleaked env after := by
    rintro before action after ⟨inv, unleaked⟩ succeeds stepped
    have effect := clusterStep_effect stepped
    exact ⟨effect.agreement succeeds inv, effect.unleaked registered inv unleaked⟩
  exact run_invariant_of_meets preserved ⟨agreement_initial, unleaked_initial⟩ succeed ran

/-- Nothing is on its way and nothing is tracked. -/
structure Cluster.Quiet (cluster : Cluster) : Prop where
  transit : ∀ site, cluster.transit site = none
  fdMap : ∀ (client : Nat) (fd : Int), (cluster.clients client).fdMap[fd]? = none

theorem Cluster.Quiet.unowned (quiet : cluster.Quiet) (owner : Site ⊕ (Nat × Int)) :
    cluster.owned env owner = none := by
  rcases owner with site | ⟨client, fd⟩
  · simp [Cluster.owned, quiet.transit site]
  · simp [Cluster.owned, Client.entry, quiet.fdMap client fd]

end

/-- While the server-side opens succeed and every server is listed, a descriptor is open at
a server exactly when the server still runs and one entry, answer or close has the descriptor, and
then no second one does. Once all tracked descriptors are closed and all messages are served, no
server has any open. -/
theorem no_descriptor_leaks (env : Nat → ClientEnv) (contents : String → Option Bytes)
    (registered : ∀ client, Registered (env client)) (actions : List ClusterAction)
    (cluster : Cluster)
    (succeed : Meets (clusterStep env contents) OpensSucceed Cluster.initial actions)
    (ran : run (clusterStep env contents) Cluster.initial actions = some cluster) :
    (∀ (address : String) (remote : Int), (cluster.servers address).Holds remote ↔
      (cluster.servers address).handler ≠ .aborted ∧
        ∃! owner, cluster.owned env owner = some (address, remote)) ∧
    (cluster.Quiet → ∀ (address : String) (remote : Int),
      ¬(cluster.servers address).Holds remote) := by
  obtain ⟨inv, unleaked⟩ := run_unleaked registered succeed ran
  constructor
  · intro address remote
    refine and_congr_right fun _ => ?_
    constructor
    · intro live
      obtain ⟨owner, name, held, named⟩ := unleaked.covered (address, remote) live
      rw [Option.some.injEq] at named
      subst name
      refine ⟨owner, held, ?_⟩
      intro other otherHeld
      exact inv.owners other owner _ _ (address, remote) otherHeld held rfl rfl
    · rintro ⟨owner, held, _⟩
      obtain ⟨descriptor, opened⟩ := inv.live owner address remote held
      simp [opened]
  · rintro quiet address remote ⟨_, live⟩
    obtain ⟨owner, name, held, _⟩ := unleaked.covered (address, remote) live
    simp [quiet.unowned owner] at held

theorem no_descriptor_leaks_lateClose : ∃ cluster,
    run (clusterStep (fun _ => twoServers) oneFile) Cluster.initial lateClose = some cluster ∧
    (cluster.servers "s0").Holds 5 ∧
    (cluster.clients 0).fdMap[(3 : Int)]? = none ∧
    (∀ (address : String) (remote : Int), (cluster.servers address).Holds remote ↔
      (cluster.servers address).handler ≠ .aborted ∧
        ∃! owner, cluster.owned (fun _ => twoServers) owner = some (address, remote)) ∧
    (cluster.Quiet → ∀ (address : String) (remote : Int),
      ¬(cluster.servers address).Holds remote) := by
  have reached : (run (clusterStep (fun _ => twoServers) oneFile) Cluster.initial lateClose).map
      (fun cluster => (decide ((cluster.servers "s0").handler = .aborted),
        ((cluster.servers "s0").kernel[(5 : Int)]?).isSome,
        (cluster.clients 0).fdMap[(3 : Int)]?)) = some (false, true, none) := by decide
  obtain ⟨cluster, ran, facts⟩ := Option.map_eq_some_iff.mp reached
  simp only [Prod.mk.injEq, decide_eq_false_iff_not] at facts
  obtain ⟨running, opened, untracked⟩ := facts
  have succeed : ∀ action ∈ lateClose, ∀ before, OpensSucceed before action := by
    simp [lateClose, OpensSucceed]
  exact ⟨cluster, ran, ⟨running, opened⟩, untracked, no_descriptor_leaks
    (fun _ => twoServers) oneFile (fun _ => ⟨by decide, by decide⟩) lateClose cluster
    (meets_of_forall succeed Cluster.initial) ran⟩

end HvacCache
