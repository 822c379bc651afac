import HvacCache.ClientMaps
import HvacCache.Cluster
import HvacCache.Redirection

/-! Descriptors across clients and servers. A server descriptor that is open for
clients has one owner at a time: the map entry of a client, the answer that brings it
to a client, or the close that takes it back. -/

namespace HvacCache

open Posix Transit Transition

/-- A message finds its client waiting for it, and an opened descriptor is recorded
under the path that the client asked for. -/
def Expected (env : Nat → ClientEnv) (cluster : Cluster) : Message → Prop
  | .request address (.openRpc handle path) =>
      Opening (env handle.client) (cluster.clients handle.client) handle.callback path address
  | .request _ (.readRpc handle _ _ _) => Reading (cluster.clients handle.client) handle.callback
  | .request _ (.closeRpc _) => True
  | .response address (.openOut handle fd) =>
      ∃ path, Opening (env handle.client) (cluster.clients handle.client) handle.callback path
        address ∧ (cluster.servers address).fdToPath[fd]? = some path
  | .response _ (.rpcOut handle _ _) => Reading (cluster.clients handle.client) handle.callback

def Cluster.owned (env : Nat → ClientEnv) (cluster : Cluster) :
    Site ⊕ (Nat × Int) → Option (String × Int)
  | .inl site => (cluster.transit site).bind Message.named?
  | .inr (client, fd) => (cluster.clients client).entry (env client) fd

structure Agreement (env : Nat → ClientEnv) (contents : String → Option Bytes)
    (cluster : Cluster) : Prop where
  ids : FreshIds cluster
  stores : ∀ address, StoreInv contents (cluster.servers address)
  descriptors : ∀ address, DescriptorInv (cluster.servers address)
  clients : ∀ client, ClientInv (env client) (cluster.clients client)
  expected : ∀ site message, cluster.transit site = some message → Expected env cluster message
  callers : UniqueBy Message.client? cluster.transit
  owners : UniqueBy some (cluster.owned env)
  live : ∀ owner address fd, cluster.owned env owner = some (address, fd) →
    ∃ descriptor, (cluster.servers address).kernel[fd]? = some descriptor
  paths : ∀ (client : Nat) (fd remote : Int) (path address : String),
    (cluster.clients client).fdMap[fd]? = some path →
    (cluster.clients client).fdRedirMap[fd]? = some remote →
    addressOf (env client) path = some address →
    (cluster.servers address).fdToPath[remote]? = some path

section
variable {env : Nat → ClientEnv} {contents : String → Option Bytes} {cluster next : Cluster}

theorem agreement_initial : Agreement env contents Cluster.initial := by
  have unowned : ∀ owner, Cluster.initial.owned env owner = none := by
    rintro (site | ⟨client, fd⟩)
    · simp [Cluster.owned]
    · simp [Cluster.owned, Cluster.initial, Client.initial, Client.entry]
  refine ⟨?_, fun _ => storeInv_initial, fun _ => descriptorInv_initial,
    fun _ => clientInv_initial, ?_, ?_, ?_, ?_, ?_⟩
  · intro id message found
    simp [Cluster.initial] at found
  · intro site message found
    simp at found
  · intro first second firstItem secondItem value found
    simp at found
  · intro first second firstItem secondItem value found
    simp [unowned] at found
  · intro owner address fd found
    simp [unowned] at found
  · intro client fd remote path address tracked
    simp [Cluster.initial, Client.initial] at tracked

def NoCall (cluster : Cluster) (client : Nat) : Prop :=
  ∀ site message, cluster.transit site = some message → message.client? ≠ some client

def Unowned (env : Nat → ClientEnv) (cluster : Cluster) (name : String × Int) : Prop :=
  ∀ owner, cluster.owned env owner ≠ some name

theorem Expected.other_client {message : Message} {client : Nat} {state : Client}
    (expected : Expected env cluster message) (other : message.client? ≠ some client) :
    Expected env (cluster.setClient client state) message := by
  have same : ∀ caller, caller ≠ client →
      (cluster.setClient client state).clients caller = cluster.clients caller :=
    fun caller different => clients_setClient_other state different
  cases message with
  | request address request =>
      cases request with
      | openRpc handle path =>
          simp only [Message.client?, ne_eq, Option.some.injEq] at other
          simpa only [Expected, same _ other] using expected
      | readRpc handle inputVal accessfd offset =>
          simp only [Message.client?, ne_eq, Option.some.injEq] at other
          simpa only [Expected, same _ other] using expected
      | closeRpc fd => trivial
  | response address response =>
      cases response with
      | openOut handle fd =>
          simp only [Message.client?, Response.client, ne_eq, Option.some.injEq] at other
          simpa only [Expected, same _ other, servers_setClient] using expected
      | rpcOut handle ret pushed =>
          simp only [Message.client?, Response.client, ne_eq, Option.some.injEq] at other
          simpa only [Expected, same _ other] using expected

theorem Expected.same_clients {message : Message} (expected : Expected env cluster message)
    (sameClients : next.clients = cluster.clients)
    (recorded : ∀ address fd path, message.named? = some (address, fd) →
      (cluster.servers address).fdToPath[fd]? = some path →
      (next.servers address).fdToPath[fd]? = some path) : Expected env next message := by
  cases message with
  | request address request =>
      cases request with
      | openRpc handle path => simpa only [Expected, sameClients] using expected
      | readRpc handle inputVal accessfd offset =>
          simpa only [Expected, sameClients] using expected
      | closeRpc fd => trivial
  | response address response =>
      cases response with
      | openOut handle fd =>
          obtain ⟨path, opening, found⟩ := expected
          exact ⟨path, by simpa only [sameClients] using opening, recorded address fd path rfl found⟩
      | rpcOut handle ret pushed => simpa only [Expected, sameClients] using expected

theorem owned_of_flow {taken : Option Site} {owner : Site ⊕ (Nat × Int)} {name : String × Int}
    (flow : Flow cluster.transit next.transit taken none)
    (sameClients : next.clients = cluster.clients) (found : next.owned env owner = some name) :
    cluster.owned env owner = some name ∧ ∀ site, taken = some site → owner ≠ .inl site := by
  rcases owner with place | ⟨client, fd⟩
  · obtain ⟨message, carried, named⟩ := Option.bind_eq_some_iff.mp found
    obtain ⟨old, notTaken⟩ := (flow place message carried).resolve_right (by simp)
    refine ⟨Option.bind_eq_some_iff.mpr ⟨message, old, named⟩, ?_⟩
    intro site took same
    exact notTaken (by rw [took, Sum.inl.inj same])
  · exact ⟨by simpa only [Cluster.owned, sameClients] using found, by simp⟩

theorem Agreement.drop (inv : Agreement env contents cluster) {site : Site}
    (ids : FreshIds next) (sameClients : next.clients = cluster.clients)
    (sameServers : next.servers = cluster.servers)
    (flow : Flow cluster.transit next.transit (some site) none) : Agreement env contents next := by
  refine ⟨ids, by rw [sameServers]; exact inv.stores, by rw [sameServers]; exact inv.descriptors,
    by rw [sameClients]; exact inv.clients, ?_, ?_, ?_, ?_, ?_⟩
  · intro place message found
    obtain ⟨old, _⟩ := (flow place message found).resolve_right (by simp)
    refine (inv.expected place message old).same_clients sameClients ?_
    intro address fd path _ recorded
    rw [sameServers]
    exact recorded
  · exact flow.uniqueBy inv.callers (by simp)
  · intro first second firstItem secondItem value firstFound secondFound firstKey secondKey
    exact inv.owners first second firstItem secondItem value
      (owned_of_flow flow sameClients firstFound).1 (owned_of_flow flow sameClients secondFound).1
      firstKey secondKey
  · intro owner address fd found
    rw [sameServers]
    exact inv.live owner address fd (owned_of_flow flow sameClients found).1
  · rw [sameClients, sameServers]
    exact inv.paths

theorem Agreement.place (inv : Agreement env contents cluster) {site : Site} {message : Message}
    (ids : FreshIds next) (stores : ∀ address, StoreInv contents (next.servers address))
    (descriptors : ∀ address, DescriptorInv (next.servers address))
    (sameClients : next.clients = cluster.clients)
    (sameKernel : ∀ address, (next.servers address).kernel = (cluster.servers address).kernel)
    (samePaths : ∀ address, (next.servers address).fdToPath = (cluster.servers address).fdToPath)
    (flow : Flow cluster.transit next.transit none (some (site, message)))
    (expected : Expected env cluster message)
    (noCall : ∀ client, message.client? = some client → NoCall cluster client)
    (unowned : ∀ name, message.named? = some name → Unowned env cluster name ∧
      ∃ descriptor, (cluster.servers name.1).kernel[name.2]? = some descriptor) :
    Agreement env contents next := by
  have owned : Flow (cluster.owned env) (next.owned env) none
      (message.named?.map fun name => (Sum.inl site, name)) := by
    rintro (place | ⟨client, fd⟩) name found
    · obtain ⟨carried, present, named⟩ := Option.bind_eq_some_iff.mp found
      rcases flow place carried present with ⟨old, _⟩ | new
      · exact Or.inl ⟨Option.bind_eq_some_iff.mpr ⟨carried, old, named⟩, by simp⟩
      · simp only [Option.some.injEq, Prod.mk.injEq] at new
        obtain ⟨samePlace, sameMessage⟩ := new
        subst place carried
        exact Or.inr (by simp [named])
    · refine Or.inl ⟨?_, by simp⟩
      simpa only [Cluster.owned, sameClients] using found
  have keepsPaths : ∀ other : Message, Expected env cluster other → Expected env next other := by
    intro other held
    refine held.same_clients sameClients ?_
    intro address fd path _ recorded
    rw [samePaths]
    exact recorded
  refine ⟨ids, stores, descriptors, by rw [sameClients]; exact inv.clients, ?_, ?_, ?_, ?_, ?_⟩
  · intro place carried found
    rcases flow place carried found with ⟨old, _⟩ | new
    · exact keepsPaths carried (inv.expected place carried old)
    · simp only [Option.some.injEq, Prod.mk.injEq] at new
      exact keepsPaths carried (new.2 ▸ expected)
  · refine flow.uniqueBy inv.callers ?_
    intro place carried client put caller other otherMessage found sameCaller
    simp only [Option.some.injEq, Prod.mk.injEq] at put
    exact absurd sameCaller (noCall client (put.2 ▸ caller) other otherMessage found)
  · refine owned.uniqueBy inv.owners ?_
    intro place name value put key other otherName found otherKey
    simp only [Option.map_eq_some_iff, Prod.mk.injEq] at put
    obtain ⟨fresh, named, _, same⟩ := put
    simp only [Option.some.injEq] at key otherKey
    subst value fresh
    exact absurd (otherKey ▸ found) ((unowned name named).1 other)
  · intro owner address fd found
    rw [sameKernel]
    rcases owned owner (address, fd) found with ⟨old, _⟩ | new
    · exact inv.live owner address fd old
    · simp only [Option.map_eq_some_iff, Prod.mk.injEq] at new
      obtain ⟨fresh, named, _, same⟩ := new
      subst fresh
      exact (unowned (address, fd) named).2
  · rw [sameClients]
    intro client fd remote path address tracked redirected located
    rw [samePaths]
    exact inv.paths client fd remote path address tracked redirected located

theorem Agreement.post (inv : Agreement env contents cluster) {message : Message}
    (expected : Expected env cluster message)
    (noCall : ∀ client, message.client? = some client → NoCall cluster client)
    (unowned : ∀ name, message.named? = some name → Unowned env cluster name ∧
      ∃ descriptor, (cluster.servers name.1).kernel[name.2]? = some descriptor) :
    Agreement env contents (cluster.post (some message)) :=
  inv.place (FreshIds.post inv.ids) inv.stores inv.descriptors rfl (fun _ => rfl) (fun _ => rfl)
    (flow_post message) expected noCall unowned

theorem Agreement.client (inv : Agreement env contents cluster) {client : Nat} {state : Client}
    (added : Option (Int × String × Int)) (clientInv : ClientInv (env client) state)
    (noCall : NoCall cluster client)
    (entries : ∀ (fd remote : Int) (path : String), state.fdMap[fd]? = some path →
      state.fdRedirMap[fd]? = some remote →
      ((cluster.clients client).fdMap[fd]? = some path ∧
        (cluster.clients client).fdRedirMap[fd]? = some remote) ∨
      ∃ address, addressOf (env client) path = some address ∧
        added = some (fd, address, remote) ∧
        (cluster.servers address).fdToPath[remote]? = some path)
    (fresh : ∀ fd address remote, added = some (fd, address, remote) →
      Unowned env cluster (address, remote) ∧
        ∃ descriptor, (cluster.servers address).kernel[remote]? = some descriptor) :
    Agreement env contents (cluster.setClient client state) := by
  have owned : Flow (cluster.owned env) ((cluster.setClient client state).owned env) none
      (added.map fun entry => (.inr (client, entry.1), entry.2)) := by
    rintro (place | ⟨other, fd⟩) ⟨address, remote⟩ found
    · exact Or.inl ⟨by simpa only [Cluster.owned, transit_setClient] using found, by simp⟩
    · by_cases same : other = client
      · subst other
        simp only [Cluster.owned, clients_setClient_same] at found
        obtain ⟨path, tracked, redirected, located⟩ := entry_eq_some.mp found
        rcases entries fd remote path tracked redirected with
          ⟨oldTracked, oldRedirected⟩ | ⟨chosen, newLocated, new, _⟩
        · exact Or.inl ⟨entry_eq_some.mpr ⟨path, oldTracked, oldRedirected, located⟩, by simp⟩
        · rw [located, Option.some.injEq] at newLocated
          exact Or.inr (by simp [new, newLocated])
      · refine Or.inl ⟨?_, by simp⟩
        simpa only [Cluster.owned, clients_setClient_other state same] using found
  refine ⟨inv.ids, inv.stores, inv.descriptors,
    forall_setClient _ inv.clients clientInv, ?_, ?_,
    ?_, ?_, ?_⟩
  · intro site message found
    rw [transit_setClient] at found
    exact (inv.expected site message found).other_client (noCall site message found)
  · rw [transit_setClient]
    exact inv.callers
  · refine owned.uniqueBy inv.owners ?_
    intro place name value put key other otherName found otherKey
    simp only [Option.map_eq_some_iff, Prod.mk.injEq] at put
    obtain ⟨⟨fd, address, remote⟩, new, _, same⟩ := put
    simp only [Option.some.injEq] at key otherKey
    subst value name
    exact absurd (found.trans (by rw [otherKey])) ((fresh fd address remote new).1 other)
  · intro owner address remote found
    rcases owned owner (address, remote) found with ⟨old, _⟩ | put
    · exact inv.live owner address remote old
    · simp only [Option.map_eq_some_iff, Prod.mk.injEq] at put
      obtain ⟨⟨fd, chosen, descriptor⟩, new, _, same⟩ := put
      simp only [Prod.mk.injEq] at same
      exact (fresh fd address remote (by rw [new, same.1, same.2])).2
  · intro other fd remote path address tracked redirected located
    by_cases same : other = client
    · subst other
      rw [clients_setClient_same] at tracked redirected
      rcases entries fd remote path tracked redirected with
        ⟨oldTracked, oldRedirected⟩ | ⟨chosen, newLocated, _, recorded⟩
      · exact inv.paths client fd remote path address oldTracked oldRedirected located
      · rw [located, Option.some.injEq] at newLocated
        exact newLocated ▸ recorded
    · rw [clients_setClient_other state same] at tracked redirected
      exact inv.paths other fd remote path address tracked redirected located

theorem Agreement.serve (inv : Agreement env contents cluster) {address : String} {state : Server}
    (store : StoreInv contents state) (descriptors : DescriptorInv state)
    (request : state.handler.request? = (cluster.servers address).handler.request? ∨
      state.handler.request? = none)
    (kept : ∀ (fd : Int) (descriptor : Descriptor) (path : String),
      (cluster.servers address).kernel[fd]? = some descriptor →
      (cluster.servers address).fdToPath[fd]? = some path →
      ((∃ shifted, state.kernel[fd]? = some shifted) ∧ state.fdToPath[fd]? = some path) ∨
        (state.handler.request? = none ∧
          (cluster.servers address).handler.request? = some (.closeRpc fd))) :
    Agreement env contents (cluster.setServer address state) := by
  have flow : ∃ taken, Flow cluster.transit (cluster.setServer address state).transit taken none ∧
      (state.handler.request? = none → taken = some (.handler address)) := by
    by_cases dropped : state.handler.request? = none
    · exact ⟨some (.handler address), flow_serve_drop dropped, fun _ => rfl⟩
    · exact ⟨none, flow_serve_keep (request.resolve_right dropped), fun none => absurd none dropped⟩
  obtain ⟨taken, flow, takes⟩ := flow
  -- Whoever still holds a descriptor of this server keeps it, for only the handler can
  -- be closing it and two holders would be the same.
  have stays : ∀ owner fd path, (cluster.setServer address state).owned env owner =
      some (address, fd) → (cluster.servers address).fdToPath[fd]? = some path →
      (∃ shifted, state.kernel[fd]? = some shifted) ∧ state.fdToPath[fd]? = some path := by
    intro owner fd path found recorded
    obtain ⟨before, notTaken⟩ := owned_of_flow flow rfl found
    obtain ⟨descriptor, opened⟩ := inv.live owner address fd before
    rcases kept fd descriptor path opened recorded with stays | ⟨dropped, closing⟩
    · exact stays
    · have handling : cluster.owned env (.inl (.handler address)) = some (address, fd) := by
        simp [Cluster.owned, Cluster.transit, closing, Message.named?]
      have same := inv.owners owner _ _ _ (address, fd) before handling rfl rfl
      exact absurd same (notTaken _ (takes dropped))
  have recordedPath : ∀ owner fd, cluster.owned env owner = some (address, fd) →
      ∃ path, (cluster.servers address).fdToPath[fd]? = some path := by
    intro owner fd found
    obtain ⟨descriptor, opened⟩ := inv.live owner address fd found
    obtain ⟨_, _, path, recorded, _⟩ := (inv.descriptors address).recorded fd descriptor opened
    exact ⟨path, recorded⟩
  refine ⟨inv.ids, forall_setServer _ inv.stores store,
    forall_setServer _ inv.descriptors descriptors, inv.clients, ?_, ?_, ?_, ?_, ?_⟩
  · intro place message found
    obtain ⟨old, _⟩ := (flow place message found).resolve_right (by simp)
    refine (inv.expected place message old).same_clients rfl ?_
    intro other fd path named recorded
    by_cases same : other = address
    · subst other
      have holds : (cluster.setServer address state).owned env (.inl place) =
          some (address, fd) := by
        simp [Cluster.owned, found, named]
      simpa only [servers_setServer_same] using (stays _ fd path holds recorded).2
    · simpa only [servers_setServer_other state same] using recorded
  · exact flow.uniqueBy inv.callers (by simp)
  · intro first second firstItem secondItem value firstFound secondFound firstKey secondKey
    exact inv.owners first second firstItem secondItem value (owned_of_flow flow rfl firstFound).1
      (owned_of_flow flow rfl secondFound).1 firstKey secondKey
  · intro owner other fd found
    by_cases same : other = address
    · subst other
      obtain ⟨path, recorded⟩ := recordedPath owner fd (owned_of_flow flow rfl found).1
      simpa only [servers_setServer_same] using (stays owner fd path found recorded).1
    · rw [servers_setServer_other state same]
      exact inv.live owner other fd (owned_of_flow flow rfl found).1
  · intro client fd remote path other tracked redirected located
    have recorded := inv.paths client fd remote path other tracked redirected located
    by_cases same : other = address
    · subst other
      have holds : (cluster.setServer address state).owned env (.inr (client, fd)) =
          some (address, remote) := entry_eq_some.mpr ⟨path, tracked, redirected, located⟩
      simpa only [servers_setServer_same] using (stays _ remote path holds recorded).2
    · simpa only [servers_setServer_other state same] using recorded

theorem Agreement.noCall (inv : Agreement env contents cluster) {client : Nat}
    (settled : (cluster.clients client).pc = .idle ∨ (cluster.clients client).completion.ready) :
    NoCall cluster client := by
  intro site message found caller
  have expected := inv.expected site message found
  have blocked : (cluster.clients client).pc ≠ .idle ∧
      (cluster.clients client).completion.done = 0 := by
    cases message with
    | request address request =>
        cases request with
        | openRpc handle path =>
            simp only [Message.client?, Option.some.injEq] at caller
            subst client
            obtain ⟨file, mode, fd, pc, _, _, _, unset⟩ := expected
            exact ⟨by simp [pc], unset⟩
        | readRpc handle inputVal accessfd offset =>
            simp only [Message.client?, Option.some.injEq] at caller
            subst client
            obtain ⟨⟨fd, count, pc⟩ | ⟨fd, count, offset, pc⟩, _, unset⟩ := expected
            · exact ⟨by simp [pc], unset⟩
            · exact ⟨by simp [pc], unset⟩
        | closeRpc fd => simp [Message.client?] at caller
    | response address response =>
        cases response with
        | openOut handle fd =>
            simp only [Message.client?, Response.client, Option.some.injEq] at caller
            subst client
            obtain ⟨path, ⟨file, mode, fd, pc, _, _, _, unset⟩, _⟩ := expected
            exact ⟨by simp [pc], unset⟩
        | rpcOut handle ret pushed =>
            simp only [Message.client?, Response.client, Option.some.injEq] at caller
            subst client
            obtain ⟨⟨fd, count, pc⟩ | ⟨fd, count, offset, pc⟩, _, unset⟩ := expected
            · exact ⟨by simp [pc], unset⟩
            · exact ⟨by simp [pc], unset⟩
  rcases settled with idle | ready
  · exact blocked.1 idle
  · simp [Completion.ready, blocked.2] at ready

theorem Agreement.call (inv : Agreement env contents cluster) {client : Nat} {state : Client}
    (clientInv : ClientInv (env client) state)
    (settled : (cluster.clients client).pc = .idle ∨ (cluster.clients client).completion.ready)
    (entries : ∀ (fd remote : Int) (path : String), state.fdMap[fd]? = some path →
      state.fdRedirMap[fd]? = some remote →
      (cluster.clients client).fdMap[fd]? = some path ∧
        (cluster.clients client).fdRedirMap[fd]? = some remote) :
    Agreement env contents (cluster.setClient client state) :=
  inv.client none clientInv (inv.noCall settled)
    (fun fd remote path tracked redirected => Or.inl (entries fd remote path tracked redirected))
    (by simp)

theorem Agreement.request (inv : Agreement env contents cluster) {client : Nat} {state : Client}
    {message : Message} (called : Agreement env contents (cluster.setClient client state))
    (idle : (cluster.clients client).pc = .idle) (caller : message.client? = some client)
    (unnamed : message.named? = none)
    (expected : Expected env (cluster.setClient client state) message) :
    Agreement env contents ((cluster.setClient client state).post (some message)) := by
  refine called.post expected ?_ (by simp [unnamed])
  intro other same
  rw [caller, Option.some.injEq] at same
  subst other
  intro site carried found
  rw [transit_setClient] at found
  exact inv.noCall (Or.inl idle) site carried found

theorem Agreement.close (inv : Agreement env contents cluster) {client : Nat} {state : Client}
    {fd remote : Int} {path address : String}
    (called : Agreement env contents (cluster.setClient client state))
    (tracked : (cluster.clients client).fdMap[fd]? = some path)
    (redirected : (cluster.clients client).fdRedirMap[fd]? = some remote)
    (located : addressOf (env client) path = some address) (removed : state.fdMap[fd]? = none)
    (kept : ∀ (other : Int) (name : String × Int), state.entry (env client) other = some name →
      (cluster.clients client).entry (env client) other = some name) :
    Agreement env contents
      ((cluster.setClient client state).post (some (.request address (.closeRpc remote)))) := by
  have entry : cluster.owned env (.inr (client, fd)) = some (address, remote) :=
    entry_eq_some.mpr ⟨path, tracked, redirected, located⟩
  refine called.post trivial (by simp [Message.client?]) ?_
  intro name named
  simp only [Message.named?, Option.some.injEq] at named
  subst name
  refine ⟨?_, inv.live _ address remote entry⟩
  intro owner held
  have before : cluster.owned env owner = some (address, remote) ∧ owner ≠ .inr (client, fd) := by
    rcases owner with site | ⟨other, otherFd⟩
    · exact ⟨by simpa only [Cluster.owned, transit_setClient] using held, by simp⟩
    · by_cases same : other = client
      · subst other
        simp only [Cluster.owned, clients_setClient_same] at held
        refine ⟨kept otherFd _ held, ?_⟩
        intro sameOwner
        simp only [Sum.inr.injEq, Prod.mk.injEq, true_and] at sameOwner
        obtain ⟨original, stillTracked, _⟩ := entry_eq_some.mp held
        simp [sameOwner, removed] at stillTracked
      · refine ⟨?_, by simp [same]⟩
        simpa only [Cluster.owned, clients_setClient_other state same] using held
  exact before.2 (inv.owners owner _ _ _ (address, remote) before.1 entry rfl rfl)

theorem ClientEffect.agreement {client : Nat} {action : ClientAction} {state : Client}
    {outgoing : Outgoing}
    (effect : ClientEffect (env client) contents client (cluster.clients client) action state
      outgoing) (inv : Agreement env contents cluster) :
    Agreement env contents
      ((cluster.setClient client state).post (outgoing.map fun sent => .request sent.1 sent.2)) := by
  have clientInv := effect.clientInv (inv.clients client)
  have same : ∀ (fd remote : Int) (path : String),
      (cluster.clients client).fdMap[fd]? = some path →
      (cluster.clients client).fdRedirMap[fd]? = some remote →
      (cluster.clients client).fdMap[fd]? = some path ∧
        (cluster.clients client).fdRedirMap[fd]? = some remote :=
    fun _ _ _ tracked redirected => ⟨tracked, redirected⟩
  cases effect with
  | openFailed pathname flags idle => exact inv.call clientInv (Or.inl idle) same
  | openUntracked pathname flags fd idle unused present untracked =>
      exact inv.call clientInv (Or.inl idle) same
  | openTracked pathname flags fd path address cache idle unused present tracked routed =>
      have unredirected := (inv.clients client).unredirected_of_untracked
        ((inv.clients client).untracked_of_unused unused)
      obtain ⟨located, _⟩ := route_address (inv.clients client).cache routed
      refine inv.request (inv.call clientInv (Or.inl idle) ?_) idle rfl rfl ?_
      · intro other remote original found redirected
        rcases OrderedMap.found_insert found with ⟨sameFd, _⟩ | ⟨_, old⟩
        · subst other
          simp [unredirected] at redirected
        · exact ⟨old, redirected⟩
      · simp only [Expected, clients_setClient_same]
        exact ⟨_, _, fd, rfl, rfl, by simp, located, rfl⟩
  | readUntracked fd count idle untracked => exact inv.call clientInv (Or.inl idle) same
  | readTracked fd count path address cache idle tracked routed =>
      obtain ⟨remote, _, indexed⟩ := (inv.clients client).index_remote idle tracked
      refine inv.request (inv.call clientInv (Or.inl idle) ?_) idle rfl rfl ?_
      · simpa only [indexed] using same
      · simp only [Expected, clients_setClient_same]
        exact ⟨Or.inl ⟨fd, count, rfl⟩, rfl, rfl⟩
  | preadUntracked fd count offset idle untracked => exact inv.call clientInv (Or.inl idle) same
  | preadLocal fd count offset path idle tracked unredirected =>
      obtain ⟨remote, _, indexed⟩ := (inv.clients client).index_remote idle tracked
      refine inv.call clientInv (Or.inl idle) ?_
      simpa only [indexed, realPread, Client.finish] using same
  | preadTracked fd count offset path address cache idle tracked redirected routed =>
      obtain ⟨remote, _, indexed⟩ := (inv.clients client).index_remote idle tracked
      refine inv.request (inv.call clientInv (Or.inl idle) ?_) idle rfl rfl ?_
      · simpa only [indexed] using same
      · simp only [Expected, clients_setClient_same]
        exact ⟨Or.inr ⟨fd, count, offset, rfl⟩, rfl, rfl⟩
  | closeUntracked fd idle untracked => exact inv.call clientInv (Or.inl idle) same
  | closeTracked fd path address cache idle tracked routed =>
      obtain ⟨remote, redirected, indexed⟩ := (inv.clients client).index_remote idle tracked
      obtain ⟨located, _⟩ := route_address (inv.clients client).cache routed
      simp only [indexed] at clientInv ⊢
      have kept : ∀ (other otherRemote : Int) (original : String),
          ((cluster.clients client).fdMap.erase fd)[other]? = some original →
          ((cluster.clients client).fdRedirMap.erase fd)[other]? = some otherRemote →
          (cluster.clients client).fdMap[other]? = some original ∧
            (cluster.clients client).fdRedirMap[other]? = some otherRemote :=
        fun _ _ _ found foundRemote =>
          ⟨(OrderedMap.found_erase found).2, (OrderedMap.found_erase foundRemote).2⟩
      refine inv.close (inv.call clientInv (Or.inl idle) kept) tracked redirected located ?_ ?_
      · simp [realClose, Client.finish]
      · rintro other ⟨otherAddress, otherRemote⟩ held
        obtain ⟨original, stillTracked, stillRedirected, otherLocated⟩ := entry_eq_some.mp held
        obtain ⟨oldTracked, oldRedirected⟩ :=
          kept other otherRemote original stillTracked stillRedirected
        exact entry_eq_some.mpr ⟨original, oldTracked, oldRedirected, otherLocated⟩
  | aborted action path idle unrouted =>
      refine inv.call clientInv (Or.inl idle) ?_
      intro fd remote original found
      simp [Client.abort, Client.initial] at found
  | wakeOpen file mode fd ready blocked => exact inv.call clientInv (Or.inr ready) same
  | wakeRead fd count ready blocked returned => exact inv.call clientInv (Or.inr ready) same
  | wakeReadLocal fd count ready blocked failed => exact inv.call clientInv (Or.inr ready) same
  | wakePread fd count offset ready blocked returned => exact inv.call clientInv (Or.inr ready) same
  | wakePreadLocal fd count offset ready blocked failed =>
      exact inv.call clientInv (Or.inr ready) same

theorem Agreement.noCall_of_gone (inv : Agreement env contents cluster) {site : Site}
    {message : Message} {client : Nat} (carried : cluster.transit site = some message)
    (caller : message.client? = some client)
    (flow : Flow cluster.transit next.transit (some site) none) : NoCall next client :=
  fun _ _ found => inv.callers.gone flow carried caller found

theorem Agreement.unowned_of_gone (inv : Agreement env contents cluster) {site : Site}
    {message : Message} {name : String × Int} (carried : cluster.transit site = some message)
    (named : message.named? = some name) (sameClients : next.clients = cluster.clients)
    (flow : Flow cluster.transit next.transit (some site) none) : Unowned env next name := by
  have holds : cluster.owned env (.inl site) = some name := by simp [Cluster.owned, carried, named]
  intro owner found
  obtain ⟨before, notTaken⟩ := owned_of_flow flow sameClients found
  exact notTaken site rfl (inv.owners owner _ _ _ name before holds rfl rfl)

theorem Agreement.accept (inv : Agreement env contents cluster) {id : Nat} {address : String}
    {request : Request} {state : Server}
    (found : cluster.net[id]? = some (.request address request))
    (effect : ServerEffect contents (cluster.servers address) (.accept request) state none) :
    Agreement env contents ((cluster.take id).setServer address state) := by
  have carried : cluster.transit (.net id) = some (.request address request) := found
  have flow : Flow cluster.transit (cluster.take id).transit (some (.net id)) none := flow_take id
  have taken := inv.drop (FreshIds.take inv.ids id) rfl rfl flow
  have same : state.kernel = (cluster.servers address).kernel ∧
      state.fdToPath = (cluster.servers address).fdToPath := by
    cases effect <;> exact ⟨rfl, rfl⟩
  refine taken.place taken.ids
    (forall_setServer _ taken.stores (effect.storeInv (inv.stores address)))
    (forall_setServer _ taken.descriptors
      (effect.descriptorInv (inv.stores address) (inv.descriptors address)))
    rfl
    ?_ ?_ (flow_accept effect) ?_ ?_ ?_
  · intro other
    by_cases here : other = address
    · subst other
      simpa only [servers_setServer_same, servers_take] using same.1
    · rw [servers_setServer_other state here]
  · intro other
    by_cases here : other = address
    · subst other
      simpa only [servers_setServer_same, servers_take] using same.2
    · rw [servers_setServer_other state here]
  · exact (inv.expected _ _ carried).same_clients rfl fun _ _ _ _ recorded => recorded
  · intro client caller
    exact inv.noCall_of_gone carried caller flow
  · intro name named
    refine ⟨inv.unowned_of_gone carried named rfl flow, ?_⟩
    exact inv.live (.inl (.net id)) name.1 name.2 (by simp [Cluster.owned, carried, named])

theorem ServerEffect.kept {server state : Server} {action : ServerAction}
    {response : Option Response} (effect : ServerEffect contents server action state response)
    (inv : DescriptorInv server) (fd : Int) (descriptor : Descriptor) (path : String)
    (opened : server.kernel[fd]? = some descriptor) (recorded : server.fdToPath[fd]? = some path) :
    ((∃ shifted, state.kernel[fd]? = some shifted) ∧ state.fdToPath[fd]? = some path) ∨
      (state.handler.request? = none ∧ server.handler.request? = some (.closeRpc fd)) := by
  cases effect with
  | openFailed handle original redirPath opening =>
      obtain ⟨lower, _⟩ := inv.recorded fd descriptor opened
      refine Or.inl ⟨⟨descriptor, opened⟩, ?_⟩
      rw [OrderedMap.getElem?_insert_ite, if_neg (by omega)]
      exact recorded
  | opened handle original redirPath newFd opening unused present =>
      have different : newFd ≠ fd := by
        intro same
        subst newFd
        simp [unused.2] at opened
      refine Or.inl ⟨⟨descriptor, ?_⟩, ?_⟩
      · rw [OrderedMap.getElem?_insert_ite, if_neg different]
        exact opened
      · rw [OrderedMap.getElem?_insert_ite, if_neg different]
        exact recorded
  | readDone handle inputVal accessfd offset failure outcome reading allocated result fits =>
      subst outcome
      obtain ⟨shifted, present, _⟩ := (handlerRead_sameFiles contents server failure accessfd
        (uint64 inputVal) offset).found opened
      exact Or.inl ⟨⟨shifted, present⟩, recorded⟩
  | readOverrun handle inputVal accessfd offset failure outcome reading allocated result overrun =>
      subst outcome
      obtain ⟨shifted, present, _⟩ := (handlerRead_sameFiles contents server failure accessfd
        (uint64 inputVal) offset).found opened
      exact Or.inl ⟨⟨shifted, present⟩, recorded⟩
  | closed closedFd closedDescriptor closing found =>
      by_cases same : closedFd = fd
      · subst closedFd
        refine Or.inr ⟨?_, by simp [closing, HandlerPc.request?]⟩
        simp only
        split <;> rfl
      · obtain ⟨_, _, closedPath, closedRecorded, _⟩ := inv.recorded closedFd closedDescriptor found
        refine Or.inl ⟨⟨descriptor, ?_⟩, ?_⟩
        · rw [OrderedMap.getElem?_erase_ite, if_neg same]
          exact opened
        · rw [OrderedMap.index_of_some closedRecorded]
          exact recorded
  | pushPath closedFd pushing =>
      obtain ⟨_, closedPath, closedRecorded⟩ :=
        inv.forgetting closedFd (by simp [pushing, HandlerPc.closed?])
      refine Or.inl ⟨⟨descriptor, opened⟩, ?_⟩
      rw [OrderedMap.index_of_some closedRecorded]
      exact recorded
  | erasePath closedFd erasing =>
      obtain ⟨missing, _⟩ := inv.forgetting closedFd (by simp [erasing, HandlerPc.closed?])
      have different : closedFd ≠ fd := by
        intro same
        subst closedFd
        simp [missing] at opened
      refine Or.inl ⟨⟨descriptor, opened⟩, ?_⟩
      rw [OrderedMap.getElem?_erase_ite, if_neg different]
      exact recorded
  | _ => exact Or.inl ⟨⟨descriptor, opened⟩, recorded⟩

theorem ServerEffect.request {server state : Server} {action : ServerAction}
    {response : Option Response} (effect : ServerEffect contents server action state response)
    (serving : ∀ request, action ≠ .accept request) :
    (state.handler.request? = server.handler.request? ∧ response = none) ∨
      state.handler.request? = none := by
  cases effect with
  | acceptOpen handle path idle => exact absurd rfl (serving _)
  | acceptRead handle inputVal accessfd offset idle => exact absurd rfl (serving _)
  | acceptClose fd idle => exact absurd rfl (serving _)
  | closed fd descriptor closing found =>
      refine Or.inr ?_
      simp only
      split <;> rfl
  | _ => simp_all [HandlerPc.request?]

theorem ServerEffect.answer {server state : Server} {action : ServerAction} {response : Response}
    (effect : ServerEffect contents server action state (some response))
    (succeeds : action ≠ .openFile (-1)) :
    (∃ handle path fd, server.handler.request? = some (.openRpc handle path) ∧
      response = .openOut handle fd ∧ Unused server.kernel fd ∧
      (∃ descriptor, state.kernel[fd]? = some descriptor) ∧ state.fdToPath[fd]? = some path) ∨
    ∃ handle inputVal accessfd offset ret pushed,
      server.handler.request? = some (.readRpc handle inputVal accessfd offset) ∧
      response = .rpcOut handle ret pushed := by
  cases effect with
  | openFailed handle path redirPath opening => exact absurd rfl succeeds
  | opened handle path redirPath fd opening unused present =>
      have present : (server.kernel.insert fd
          { file := redirPath, mode := .readOnly, position := 0 })[fd]? =
          some { file := redirPath, mode := .readOnly, position := 0 } := by simp
      refine Or.inl ⟨handle, path, fd, ?_, rfl, unused, ⟨_, present⟩, by simp⟩
      simp [opening, HandlerPc.request?]
  | readDone handle inputVal accessfd offset failure outcome reading allocated result fits =>
      refine Or.inr ⟨handle, inputVal, accessfd, offset, _, _, ?_, rfl⟩
      simp [reading, HandlerPc.request?]

theorem Agreement.served (inv : Agreement env contents cluster) {address : String}
    {action : ServerAction} {state : Server} {response : Option Response}
    (serving : ∀ request, action ≠ .accept request) (succeeds : action ≠ .openFile (-1))
    (effect : ServerEffect contents (cluster.servers address) action state response) :
    Agreement env contents
      ((cluster.setServer address state).post (response.map (.response address))) := by
  have request := effect.request serving
  have stepped : Agreement env contents (cluster.setServer address state) :=
    inv.serve (effect.storeInv (inv.stores address))
      (effect.descriptorInv (inv.stores address) (inv.descriptors address))
      (request.imp_left And.left) (effect.kept (inv.descriptors address))
  cases response with
  | none => exact stepped
  | some answer =>
      have dropped : state.handler.request? = none := by simpa using request
      have flow : Flow cluster.transit (cluster.setServer address state).transit
          (some (.handler address)) none := flow_serve_drop dropped
      rcases effect.answer succeeds with
        ⟨handle, path, fd, handled, same, unused, opened, recorded⟩ |
        ⟨handle, inputVal, accessfd, offset, ret, pushed, handled, same⟩
      · subst answer
        have carried : cluster.transit (.handler address) =
            some (.request address (.openRpc handle path)) := transit_handler handled
        refine stepped.post ?_ ?_ ?_
        · exact ⟨path, inv.expected _ _ carried, by simpa using recorded⟩
        · intro client caller
          exact inv.noCall_of_gone carried caller flow
        · intro name named
          simp only [Message.named?, Option.some.injEq] at named
          subst name
          refine ⟨?_, by simpa using opened⟩
          intro owner found
          obtain ⟨descriptor, held⟩ := inv.live owner address fd (owned_of_flow flow rfl found).1
          simp [unused.2] at held
      · subst answer
        have carried : cluster.transit (.handler address) =
            some (.request address (.readRpc handle inputVal accessfd offset)) :=
          transit_handler handled
        refine stepped.post (inv.expected _ _ carried) ?_ (by simp [Message.named?])
        intro client caller
        exact inv.noCall_of_gone carried caller flow

theorem Agreement.answered (inv : Agreement env contents cluster) {id : Nat} {address : String}
    {response : Response} {state : Client}
    (found : cluster.net[id]? = some (.response address response))
    (received : receive (cluster.clients response.client) response = some state) :
    Agreement env contents ((cluster.take id).setClient response.client state) := by
  have carried : cluster.transit (.net id) = some (.response address response) := found
  have flow : Flow cluster.transit (cluster.take id).transit (some (.net id)) none := flow_take id
  have taken := inv.drop (FreshIds.take inv.ids id) rfl rfl flow
  have noCall : NoCall (cluster.take id) response.client :=
    inv.noCall_of_gone carried rfl flow
  have expected := inv.expected _ _ carried
  rcases receive_effect received with
    ⟨caller, fd, remote, same, after⟩ | ⟨caller, ret, pushed, same, after⟩
  · subst response state
    obtain ⟨path, ⟨file, mode, opening, blocked, callback, tracked, located, unset⟩, recorded⟩ :=
      expected
    simp only [Callback.openCb.injEq] at callback
    subst opening
    refine taken.client (some (fd, address, remote))
      ((inv.clients caller).receiveOpen blocked unset tracked) noCall ?_ ?_
    · intro other otherRemote original stillTracked redirected
      rcases OrderedMap.found_insert redirected with ⟨sameFd, sameRemote⟩ | ⟨_, old⟩
      · subst other otherRemote
        have samePath : path = original := Option.some.inj (tracked.symm.trans stillTracked)
        subst original
        exact Or.inr ⟨address, located, rfl, recorded⟩
      · exact Or.inl ⟨stillTracked, old⟩
    · intro other otherAddress otherRemote added
      simp only [Option.some.injEq, Prod.mk.injEq] at added
      obtain ⟨_, sameAddress, sameRemote⟩ := added
      subst otherAddress otherRemote
      exact ⟨inv.unowned_of_gone carried rfl rfl flow,
        inv.live (.inl (.net id)) address remote (by simp [Cluster.owned, carried, Message.named?])⟩
  · subst response state
    refine taken.client none ((inv.clients caller).receiveRead expected ret pushed) noCall ?_
      (by simp)
    exact fun _ _ _ tracked redirected => Or.inl ⟨tracked, redirected⟩

def OpensSucceed (_ : Cluster) (action : ClusterAction) : Prop :=
  match action with
  | .serve _ (.openFile fd) => fd ≠ -1
  | _ => True

theorem ClusterEffect.agreement {action : ClusterAction}
    (effect : ClusterEffect env contents cluster action next)
    (succeeds : OpensSucceed cluster action) (inv : Agreement env contents cluster) :
    Agreement env contents next := by
  cases effect with
  | called client action state outgoing effect => exact effect.agreement inv
  | accepted id address request state found effect => exact inv.accept found effect
  | served address action state response serving effect =>
      refine inv.served serving ?_ effect
      intro failed
      subst action
      exact succeeds rfl
  | answered id address response state found received => exact inv.answered found received

theorem run_agreement {actions : List ClusterAction}
    (succeed : Meets (clusterStep env contents) OpensSucceed Cluster.initial actions)
    (ran : run (clusterStep env contents) Cluster.initial actions = some cluster) :
    Agreement env contents cluster := by
  have preserved : ∀ before action after, Agreement env contents before →
      OpensSucceed before action → clusterStep env contents before action = some after →
      Agreement env contents after := by
    intro before action after inv guarded stepped
    exact (clusterStep_effect stepped).agreement guarded inv
  exact run_invariant_of_meets preserved agreement_initial succeed ran

/-- Between calls the two maps of a client have the same keys. A tracked descriptor whose
open is answered stands for an open descriptor of the server its path hashes to, recorded
under that path. No two entries and no two closes share a server descriptor, and a close,
in flight or being served, names none that belongs to a client or is on its way to one. -/
structure DescriptorsAgree (env : Nat → ClientEnv) (cluster : Cluster) : Prop where
  keys : ∀ client, (cluster.clients client).pc = .idle → ∀ fd : Int,
    ((cluster.clients client).fdMap[fd]?).isSome = ((cluster.clients client).fdRedirMap[fd]?).isSome
  recorded : ∀ (client : Nat) (fd : Int) (path : String),
    (cluster.clients client).fdMap[fd]? = some path →
    (cluster.clients client).awaiting ≠ some fd →
    ∃ remote address descriptor, (cluster.clients client).fdRedirMap[fd]? = some remote ∧
      addressOf (env client) path = some address ∧
      (cluster.servers address).kernel[remote]? = some descriptor ∧
      (cluster.servers address).fdToPath[remote]? = some path
  entries : ∀ client fd other otherFd address remote,
    (cluster.clients client).entry (env client) fd = some (address, remote) →
    (cluster.clients other).entry (env other) otherFd = some (address, remote) →
    client = other ∧ fd = otherFd
  closes : ∀ (id : Nat) (address : String) (remote : Int),
    cluster.net[id]? = some (.request address (.closeRpc remote)) →
    (∀ client fd, (cluster.clients client).entry (env client) fd ≠ some (address, remote)) ∧
    ∀ other : Nat, cluster.net[other]? = some (.request address (.closeRpc remote)) → other = id
  late : ∀ (address : String) (remote : Int),
    (cluster.servers address).handler = .closeRpc remote →
    (∀ client fd, (cluster.clients client).entry (env client) fd ≠ some (address, remote)) ∧
    ∀ (id : Nat) (handle : Handle),
      cluster.net[id]? ≠ some (.response address (.openOut handle remote))

theorem Agreement.holder_unique (inv : Agreement env contents cluster) {client other : Nat}
    {fd otherFd : Int} {address : String} {remote : Int}
    (held : (cluster.clients client).entry (env client) fd = some (address, remote))
    (otherHeld : (cluster.clients other).entry (env other) otherFd = some (address, remote)) :
    client = other ∧ fd = otherFd := by
  have same := inv.owners (.inr (client, fd)) (.inr (other, otherFd)) _ _ (address, remote) held
    otherHeld rfl rfl
  simpa using same

theorem Agreement.descriptorsAgree (inv : Agreement env contents cluster) :
    DescriptorsAgree env cluster := by
  -- A message and an entry, or two messages, that hold one descriptor are the same holder.
  have noEntry : ∀ site message address remote, cluster.transit site = some message →
      message.named? = some (address, remote) →
      ∀ client fd, (cluster.clients client).entry (env client) fd ≠ some (address, remote) := by
    intro site message address remote carried named client fd held
    have holds : cluster.owned env (.inl site) = some (address, remote) := by
      simp [Cluster.owned, carried, named]
    have same := inv.owners (.inr (client, fd)) _ _ _ (address, remote) held holds rfl rfl
    simp at same
  have sameSite : ∀ first second firstMessage secondMessage name,
      cluster.transit first = some firstMessage → cluster.transit second = some secondMessage →
      firstMessage.named? = some name → secondMessage.named? = some name → first = second := by
    intro first second firstMessage secondMessage name firstFound secondFound firstName secondName
    have same := inv.owners (.inl first) (.inl second) name name name
      (by simp [Cluster.owned, firstFound, firstName])
      (by simp [Cluster.owned, secondFound, secondName]) rfl rfl
    exact Sum.inl.inj same
  refine ⟨?_, ?_, ?_, ?_, ?_⟩
  · intro client idle fd
    have clientInv := inv.clients client
    have settled : (cluster.clients client).awaiting ≠ some fd := by simp [Client.awaiting, idle]
    rw [Bool.eq_iff_iff, Option.isSome_iff_exists, Option.isSome_iff_exists]
    constructor
    · rintro ⟨path, tracked⟩
      exact clientInv.redirected fd path tracked settled
    · rintro ⟨remote, redirected⟩
      exact clientInv.tracked fd remote redirected
  · intro client fd path tracked answered
    obtain ⟨remote, redirected⟩ := (inv.clients client).redirected fd path tracked answered
    obtain ⟨address, located⟩ := (inv.clients client).routed fd path tracked
    obtain ⟨descriptor, opened⟩ := inv.live (.inr (client, fd)) address remote
      (entry_eq_some.mpr ⟨path, tracked, redirected, located⟩)
    exact ⟨remote, address, descriptor, redirected, located, opened,
      inv.paths client fd remote path address tracked redirected located⟩
  · intro client fd other otherFd address remote held otherHeld
    exact inv.holder_unique held otherHeld
  · intro id address remote found
    refine ⟨noEntry (.net id) _ address remote found rfl, ?_⟩
    intro other otherFound
    have same := sameSite (.net other) (.net id) _ _ (address, remote) otherFound found rfl rfl
    exact Site.net.inj same
  · intro address remote closing
    have carried : cluster.transit (.handler address) =
        some (.request address (.closeRpc remote)) :=
      transit_handler (by rw [closing]; rfl)
    refine ⟨noEntry (.handler address) _ address remote carried rfl, ?_⟩
    intro id handle found
    have same := sameSite (.net id) (.handler address) _ _ (address, remote) found carried rfl rfl
    simp at same

/-- In every run in which the server-side opens succeed. -/
theorem descriptors_agree (env : Nat → ClientEnv) (contents : String → Option Bytes)
    (actions : List ClusterAction) (cluster : Cluster)
    (succeed : Meets (clusterStep env contents) OpensSucceed Cluster.initial actions)
    (ran : run (clusterStep env contents) Cluster.initial actions = some cluster) :
    DescriptorsAgree env cluster :=
  (run_agreement succeed ran).descriptorsAgree

def twoServers : ClientEnv := {
  resolve := fun path => path
  canonical := some
  canonical_resolves := by
    intro path file found
    exact (Option.some.inj found).symm
  dataDir := none
  currentPath := "/d"
  serverCount := 2
  hash := String.length
  addressFile := [(0, "s0"), (1, "s1")]
}

def readOnly : OpenFlags := { access := .readOnly, append := false }

def lateClose : List ClusterAction := [
  .call 0 (.openCall "/d/f" readOnly 3), .deliverRequest 0, .serve "s0" .redirect,
  .serve "s0" (.openFile 5), .deliverResponse 1, .call 0 .wake, .call 0 (.closeCall 3),
  .call 1 (.openCall "/d/f" readOnly 3), .deliverRequest 3, .serve "s0" .redirect,
  .serve "s0" (.openFile 6), .deliverResponse 4, .deliverRequest 2, .call 1 .wake
]

theorem descriptors_agree_lateClose : ∃ cluster,
    run (clusterStep (fun _ => twoServers) oneFile) Cluster.initial lateClose = some cluster ∧
      (cluster.servers "s0").handler = .closeRpc 5 ∧
      (cluster.clients 1).entry twoServers 3 = some ("s0", 6) ∧
      DescriptorsAgree (fun _ => twoServers) cluster := by
  have reached : (run (clusterStep (fun _ => twoServers) oneFile) Cluster.initial lateClose).map
      (fun cluster => ((cluster.servers "s0").handler, (cluster.clients 1).entry twoServers 3)) =
      some (.closeRpc 5, some ("s0", 6)) := by decide
  obtain ⟨cluster, ran, facts⟩ := Option.map_eq_some_iff.mp reached
  simp only [Prod.mk.injEq] at facts
  have succeed : ∀ action ∈ lateClose, ∀ before, OpensSucceed before action := by
    simp [lateClose, OpensSucceed]
  exact ⟨cluster, ran, facts.1, facts.2, descriptors_agree (fun _ => twoServers) oneFile lateClose
    cluster (meets_of_forall succeed Cluster.initial) ran⟩

end

end HvacCache
