import HvacCache.Client
import HvacCache.ClusterCore
import HvacCache.Library.Transit
import HvacCache.Server

/-! What each step can do to a cluster, and how messages move through it: a request is
carried by the network and then by the handler that serves it, a response by the network. -/

namespace HvacCache

open Posix Transit

inductive ClusterEffect (env : Nat → ClientEnv) (contents : String → Option Bytes)
    (cluster : Cluster) : ClusterAction → Cluster → Prop
  | called (client : Nat) (action : ClientAction) (state : Client) (outgoing : Outgoing)
      (effect : ClientEffect (env client) contents client (cluster.clients client) action state
        outgoing) :
      ClusterEffect env contents cluster (.call client action)
        ((cluster.setClient client state).post (outgoing.map fun sent => .request sent.1 sent.2))
  | accepted (id : Nat) (address : String) (request : Request) (state : Server)
      (found : cluster.net[id]? = some (.request address request))
      (effect : ServerEffect contents (cluster.servers address) (.accept request) state none) :
      ClusterEffect env contents cluster (.deliverRequest id)
        ((cluster.take id).setServer address state)
  | served (address : String) (action : ServerAction) (state : Server)
      (response : Option Response) (serving : ∀ request, action ≠ .accept request)
      (effect : ServerEffect contents (cluster.servers address) action state response) :
      ClusterEffect env contents cluster (.serve address action)
        ((cluster.setServer address state).post (response.map (.response address)))
  | answered (id : Nat) (address : String) (response : Response) (state : Client)
      (found : cluster.net[id]? = some (.response address response))
      (received : receive (cluster.clients response.client) response = some state) :
      ClusterEffect env contents cluster (.deliverResponse id)
        ((cluster.take id).setClient response.client state)

section
variable {env : Nat → ClientEnv} {contents : String → Option Bytes} {cluster next : Cluster}

theorem accept_silent {server state : Server} {request : Request} {response : Option Response}
    (effect : ServerEffect contents server (.accept request) state response) : response = none := by
  cases effect <;> rfl

theorem serveStep_effect {address : String} {action : ServerAction}
    (serving : ∀ request, action ≠ .accept request)
    (stepped : serveStep contents cluster address action = some next) :
    ClusterEffect env contents cluster (.serve address action) next := by
  unfold serveStep at stepped
  split at stepped
  · simp at stepped
  · rename_i state response acted
    simp only [Option.some.injEq] at stepped
    exact stepped ▸ .served address action state response serving (serverAct_effect acted)

theorem clusterStep_effect {action : ClusterAction}
    (stepped : clusterStep env contents cluster action = some next) :
    ClusterEffect env contents cluster action next := by
  cases action with
  | call client action =>
      simp only [clusterStep, callStep] at stepped
      split at stepped
      · simp at stepped
      · rename_i state outgoing acted
        simp only [Option.some.injEq] at stepped
        exact stepped ▸ .called client action state outgoing (clientAct_effect acted)
  | deliverRequest id =>
      simp only [clusterStep, deliverRequestStep] at stepped
      split at stepped
      · rename_i address request found
        split at stepped
        · simp at stepped
        · rename_i state response acted
          simp only [Option.some.injEq] at stepped
          have effect := serverAct_effect acted
          obtain rfl := accept_silent effect
          exact stepped ▸ .accepted id address request state found effect
      · simp at stepped
  | serve address action =>
      cases action with
      | accept request => simp [clusterStep] at stepped
      | _ => exact serveStep_effect (by simp) stepped
  | deliverResponse id =>
      simp only [clusterStep, deliverResponseStep] at stepped
      split at stepped
      · rename_i address response found
        split at stepped
        · simp at stepped
        · rename_i state received
          simp only [Option.some.injEq] at stepped
          exact stepped ▸ .answered id address response state found received
      · simp at stepped

/-! Reading the parts of a cluster after a step. -/

@[simp] theorem clients_post (message : Option Message) :
    (cluster.post message).clients = cluster.clients := by
  cases message <;> rfl

@[simp] theorem servers_post (message : Option Message) :
    (cluster.post message).servers = cluster.servers := by
  cases message <;> rfl

@[simp] theorem clients_setServer (address : String) (state : Server) :
    (cluster.setServer address state).clients = cluster.clients := rfl

@[simp] theorem servers_setClient (client : Nat) (state : Client) :
    (cluster.setClient client state).servers = cluster.servers := rfl

@[simp] theorem clients_take (id : Nat) : (cluster.take id).clients = cluster.clients := rfl

@[simp] theorem servers_take (id : Nat) : (cluster.take id).servers = cluster.servers := rfl

@[simp] theorem clients_setClient_same (client : Nat) (state : Client) :
    (cluster.setClient client state).clients client = state := by
  simp [Cluster.setClient]

theorem clients_setClient_other {client other : Nat} (state : Client) (different : other ≠ client) :
    (cluster.setClient client state).clients other = cluster.clients other := by
  simp [Cluster.setClient, different]

@[simp] theorem servers_setServer_same (address : String) (state : Server) :
    (cluster.setServer address state).servers address = state := by
  simp [Cluster.setServer]

theorem servers_setServer_other {address other : String} (state : Server)
    (different : other ≠ address) :
    (cluster.setServer address state).servers other = cluster.servers other := by
  simp [Cluster.setServer, different]

theorem forall_setServer (property : String → Server → Prop) {address : String} {state : Server}
    (all : ∀ other, property other (cluster.servers other)) (changed : property address state) :
    ∀ other, property other ((cluster.setServer address state).servers other) := by
  intro other
  by_cases same : other = address
  · subst other
    simpa only [servers_setServer_same] using changed
  · simpa only [servers_setServer_other state same] using all other

theorem forall_setClient (property : Nat → Client → Prop) {client : Nat} {state : Client}
    (all : ∀ other, property other (cluster.clients other)) (changed : property client state) :
    ∀ other, property other ((cluster.setClient client state).clients other) := by
  intro other
  by_cases same : other = client
  · subst other
    simpa only [clients_setClient_same] using changed
  · simpa only [clients_setClient_other state same] using all other

/-! Messages in transit. -/

inductive Site
  | net (id : Nat)
  | handler (address : String)
deriving DecidableEq, Repr

def HandlerPc.request? : HandlerPc → Option Request
  | .openRpc handle path => some (.openRpc handle path)
  | .openRedirected handle path _ => some (.openRpc handle path)
  | .readRpc handle inputVal accessfd offset => some (.readRpc handle inputVal accessfd offset)
  | .closeRpc fd => some (.closeRpc fd)
  | _ => none

def Cluster.transit (cluster : Cluster) : Site → Option Message
  | .net id => cluster.net[id]?
  | .handler address => (cluster.servers address).handler.request?.map (.request address)

def Message.client? : Message → Option Nat
  | .request _ (.openRpc handle _) => some handle.client
  | .request _ (.readRpc handle _ _ _) => some handle.client
  | .request _ (.closeRpc _) => none
  | .response _ answer => some answer.client

/-- The server descriptor that a message disposes of: a close gives it back, the answer
to an open hands it over. -/
def Message.named? : Message → Option (String × Int)
  | .request address (.closeRpc fd) => some (address, fd)
  | .response address (.openOut _ fd) => some (address, fd)
  | _ => none

def FreshIds (cluster : Cluster) : Prop :=
  ∀ (id : Nat) (message : Message), cluster.net[id]? = some message → id < cluster.nextId

theorem FreshIds.post {message : Option Message} (fresh : FreshIds cluster) :
    FreshIds (cluster.post message) := by
  cases message with
  | none => exact fresh
  | some message =>
      intro id other found
      rcases OrderedMap.found_insert found with ⟨same, _⟩ | ⟨_, old⟩
      · simp only [Cluster.post]
        omega
      · have bound := fresh id other old
        simp only [Cluster.post]
        omega

theorem FreshIds.take (fresh : FreshIds cluster) (id : Nat) : FreshIds (cluster.take id) := by
  intro other message found
  exact fresh other message (OrderedMap.found_erase found).2

@[simp] theorem transit_initial (site : Site) : Cluster.initial.transit site = none := by
  cases site <;> simp [Cluster.transit, Cluster.initial, Server.initial, HandlerPc.request?]

@[simp] theorem transit_setClient (client : Nat) (state : Client) :
    (cluster.setClient client state).transit = cluster.transit := by
  funext site
  cases site <;> rfl

theorem transit_handler {address : String} {request : Request}
    (handled : (cluster.servers address).handler.request? = some request) :
    cluster.transit (.handler address) = some (.request address request) := by
  simp [Cluster.transit, handled]

theorem flow_post (message : Message) :
    Flow cluster.transit (cluster.post (some message)).transit none
      (some (.net cluster.nextId, message)) := by
  intro site item found
  cases site with
  | net id =>
      rcases OrderedMap.found_insert found with ⟨same, posted⟩ | ⟨_, old⟩
      · subst id item
        exact Or.inr rfl
      · exact Or.inl ⟨old, by simp⟩
  | handler address => exact Or.inl ⟨found, by simp⟩

theorem flow_take (id : Nat) :
    Flow cluster.transit (cluster.take id).transit (some (.net id)) none := by
  intro site item carried
  cases site with
  | net other =>
      obtain ⟨different, old⟩ := OrderedMap.found_erase carried
      exact Or.inl ⟨old, by simpa using different⟩
  | handler other => exact Or.inl ⟨carried, by simp⟩

theorem flow_accept {address : String} {request : Request} {state : Server}
    (effect : ServerEffect contents (cluster.servers address) (.accept request) state none) :
    Flow cluster.transit (cluster.setServer address state).transit none
      (some (.handler address, .request address request)) := by
  intro site item carried
  cases site with
  | net other => exact Or.inl ⟨carried, by simp⟩
  | handler other =>
      by_cases same : other = address
      · subst other
        simp only [Cluster.transit, servers_setServer_same] at carried
        refine Or.inr ?_
        cases effect <;> simpa [HandlerPc.request?, eq_comm] using carried
      · simp only [Cluster.transit, servers_setServer_other state same] at carried
        exact Or.inl ⟨carried, by simp⟩

theorem flow_serve_keep {address : String} {state : Server}
    (kept : state.handler.request? = (cluster.servers address).handler.request?) :
    Flow cluster.transit (cluster.setServer address state).transit none none := by
  intro site item carried
  cases site with
  | net id => exact Or.inl ⟨carried, by simp⟩
  | handler other =>
      refine Or.inl ⟨?_, by simp⟩
      by_cases same : other = address
      · subst other
        simpa [Cluster.transit, kept] using carried
      · simpa [Cluster.transit, servers_setServer_other state same] using carried

theorem flow_serve_drop {address : String} {state : Server}
    (dropped : state.handler.request? = none) :
    Flow cluster.transit (cluster.setServer address state).transit (some (.handler address))
      none := by
  intro site item carried
  cases site with
  | net id => exact Or.inl ⟨carried, by simp⟩
  | handler other =>
      by_cases same : other = address
      · subst other
        simp [Cluster.transit, dropped] at carried
      · refine Or.inl ⟨?_, by simpa using same⟩
        simpa [Cluster.transit, servers_setServer_other state same] using carried

end

end HvacCache
