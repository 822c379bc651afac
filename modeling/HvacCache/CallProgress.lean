import HvacCache.Simulation

/-! A wrapper call that blocks can return. The request or the answer of a blocked call
is always somewhere on its way, no process dies, and a handler that is in the way can
always finish. -/

namespace HvacCache

open Posix Transit Transition

structure Registered (env : ClientEnv) : Prop where
  some_server : 1 ≤ env.serverCount
  listed : ∀ rank < env.serverCount, (scanAddr env (int32 (rank : Nat))).isSome

def InTransit (cluster : Cluster) (client : Nat) : Prop :=
  ∃ site message, cluster.transit site = some message ∧ message.client? = some client

structure Alive (env : Nat → ClientEnv) (contents : String → Option Bytes) (cluster : Cluster) :
    Prop where
  transparent : Transparent env contents cluster
  mutexes : ∀ address, MutexInv (cluster.servers address)
  handlers : ∀ address, (cluster.servers address).handler ≠ .aborted
  running : ∀ client, (cluster.clients client).pc ≠ .aborted
  pending : ∀ client, (cluster.clients client).pc ≠ .idle →
    (cluster.clients client).completion.ready ∨ InTransit cluster client

section
variable {env : ClientEnv} {contents : String → Option Bytes} {self : Nat} {client next : Client}

theorem Registered.route_ne_none (registered : Registered env) (cache : OrderedMap Int String)
    (path : String) : route env cache path ≠ none := by
  have positive := registered.some_server
  obtain ⟨address, listed⟩ := Option.isSome_iff_exists.mp
    (registered.listed (env.hash path % env.serverCount) (Nat.mod_lt _ (by omega)))
  have counted : env.serverCount ≠ 0 := by omega
  unfold route host lookupAddr
  simp only [if_neg counted]
  rw [listed]
  split <;> simp

theorem ClientEffect.running {action : ClientAction} {outgoing : Outgoing}
    (effect : ClientEffect env contents self client action next outgoing)
    (registered : Registered env) : next.pc ≠ .aborted := by
  cases effect with
  | aborted action path idle unrouted => exact absurd unrouted (registered.route_ne_none _ path)
  | _ => simp [realRead, realPread, realClose, Client.finish]

theorem ClientEffect.sent {action : ClientAction} {outgoing : Outgoing}
    (effect : ClientEffect env contents self client action next outgoing)
    (running : next.pc ≠ .aborted) (blocked : next.pc ≠ .idle) :
    ∃ address request, outgoing = some (address, request) ∧
      (Message.request address request).client? = some self := by
  cases effect with
  | openTracked pathname flags fd path address cache idle unused present tracked routed =>
      exact ⟨address, _, rfl, rfl⟩
  | readTracked fd count path address cache idle tracked routed => exact ⟨address, _, rfl, rfl⟩
  | preadTracked fd count offset path address cache idle tracked redirected routed =>
      exact ⟨address, _, rfl, rfl⟩
  | aborted action path idle unrouted => exact absurd rfl running
  | _ => exact absurd rfl blocked

end

section
variable {env : Nat → ClientEnv} {contents : String → Option Bytes} {cluster next : Cluster}
  {client : Nat}

/-! Messages stay in transit. -/

theorem transit_post (fresh : FreshIds cluster) {site : Site} {message : Message}
    (found : cluster.transit site = some message) (posted : Option Message) :
    (cluster.post posted).transit site = some message := by
  cases posted with
  | none => exact found
  | some added =>
      cases site with
      | net id =>
          have bound := fresh id message found
          simp only [Cluster.post, Cluster.transit]
          rw [OrderedMap.getElem?_insert_ite, if_neg (by omega)]
          exact found
      | handler address => exact found

theorem InTransit.post (fresh : FreshIds cluster) (carried : InTransit cluster client)
    (posted : Option Message) : InTransit (cluster.post posted) client := by
  obtain ⟨site, message, found, caller⟩ := carried
  exact ⟨site, message, transit_post fresh found posted, caller⟩

theorem inTransit_posted {message : Message} (caller : message.client? = some client) :
    InTransit (cluster.post (some message)) client :=
  ⟨.net cluster.nextId, message, by simp [Cluster.post, Cluster.transit], caller⟩

theorem InTransit.setClient {other : Nat} {state : Client} :
    InTransit (cluster.setClient other state) client ↔ InTransit cluster client := by
  simp only [InTransit, transit_setClient]

theorem transit_take {id : Nat} {site : Site} {message : Message}
    (found : cluster.transit site = some message) (stays : site ≠ .net id) :
    (cluster.take id).transit site = some message := by
  cases site with
  | net other =>
      have different : id ≠ other := by
        intro same
        exact stays (by rw [same])
      simp only [Cluster.take, Cluster.transit]
      rw [OrderedMap.getElem?_erase_ite, if_neg different]
      exact found
  | handler address => exact found

theorem transit_setServer {address : String} {state : Server} {site : Site} {message : Message}
    (found : cluster.transit site = some message) (stays : site ≠ .handler address) :
    (cluster.setServer address state).transit site = some message := by
  cases site with
  | net id => exact found
  | handler other =>
      have different : other ≠ address := by
        intro same
        exact stays (by rw [same])
      simpa only [Cluster.transit, servers_setServer_other state different] using found

theorem ServerEffect.accepted {server state : Server} {request : Request}
    (effect : ServerEffect contents server (.accept request) state none) :
    server.handler = .idle ∧ state.handler.request? = some request := by
  cases effect with
  | acceptOpen handle path idle => exact ⟨idle, rfl⟩
  | acceptRead handle inputVal accessfd offset idle => exact ⟨idle, rfl⟩
  | acceptClose fd idle => exact ⟨idle, rfl⟩

theorem InTransit.accepted {id : Nat} {address : String} {request : Request} {state : Server}
    (carried : InTransit cluster client)
    (found : cluster.net[id]? = some (.request address request))
    (effect : ServerEffect contents (cluster.servers address) (.accept request) state none) :
    InTransit ((cluster.take id).setServer address state) client := by
  obtain ⟨idle, holds⟩ := effect.accepted
  obtain ⟨site, message, present, caller⟩ := carried
  by_cases moved : site = .net id
  · subst site
    have same : message = .request address request := Option.some.inj (present.symm.trans found)
    exact ⟨.handler address, message, by simp [Cluster.transit, holds, same], caller⟩
  · refine ⟨site, message, transit_setServer (transit_take present moved) ?_, caller⟩
    intro here
    simp [here, Cluster.transit, idle, HandlerPc.request?] at present

theorem ServerEffect.answers {server state : Server} {action : ServerAction}
    {response : Option Response} {address : String} {request : Request}
    (effect : ServerEffect contents server action state response)
    (running : state.handler ≠ .aborted) (handling : server.handler.request? = some request)
    (caller : (Message.request address request).client? = some client) :
    state.handler.request? = some request ∨
      ∃ answer, response = some answer ∧ answer.client = client := by
  cases effect with
  | acceptOpen handle path idle => simp [idle, HandlerPc.request?] at handling
  | acceptRead handle inputVal accessfd offset idle => simp [idle, HandlerPc.request?] at handling
  | acceptClose fd idle => simp [idle, HandlerPc.request?] at handling
  | redirect handle path opening =>
      rw [opening] at handling
      exact Or.inl handling
  | openFailed handle path redirPath opening =>
      simp only [opening, HandlerPc.request?, Option.some.injEq] at handling
      subst request
      exact Or.inr ⟨_, rfl, by simpa [Message.client?, Response.client] using caller⟩
  | opened handle path redirPath fd opening unused present =>
      simp only [opening, HandlerPc.request?, Option.some.injEq] at handling
      subst request
      exact Or.inr ⟨_, rfl, by simpa [Message.client?, Response.client] using caller⟩
  | readUnallocated handle inputVal accessfd offset failure reading negative =>
      exact absurd rfl running
  | readDone handle inputVal accessfd offset failure outcome reading allocated result fits =>
      simp only [reading, HandlerPc.request?, Option.some.injEq] at handling
      subst request
      exact Or.inr ⟨_, rfl, by simpa [Message.client?, Response.client] using caller⟩
  | readOverrun handle inputVal accessfd offset failure outcome reading allocated result overrun =>
      exact absurd rfl running
  | closed fd descriptor closing found =>
      simp only [closing, HandlerPc.request?, Option.some.injEq] at handling
      subst request
      simp [Message.client?] at caller
  | closeFailed fd closing missing => exact absurd rfl running
  | lockQueue fd locking free => simp [locking, HandlerPc.request?] at handling
  | signalled fd before signalling waiting => simp [signalling, HandlerPc.request?] at handling
  | signalLost fd signalling awake => simp [signalling, HandlerPc.request?] at handling
  | pushPath fd pushing => simp [pushing, HandlerPc.request?] at handling
  | unlockQueue fd unlocking => simp [unlocking, HandlerPc.request?] at handling
  | erasePath fd erasing => simp [erasing, HandlerPc.request?] at handling
  | _ => exact Or.inl handling

theorem InTransit.served {address : String} {action : ServerAction} {state : Server}
    {response : Option Response} (carried : InTransit cluster client) (fresh : FreshIds cluster)
    (effect : ServerEffect contents (cluster.servers address) action state response)
    (running : state.handler ≠ .aborted) :
    InTransit ((cluster.setServer address state).post (response.map (.response address)))
      client := by
  have placed : FreshIds (cluster.setServer address state) := fresh
  obtain ⟨site, message, present, caller⟩ := carried
  by_cases here : site = .handler address
  · subst site
    obtain ⟨request, handling, same⟩ := Option.map_eq_some_iff.mp present
    subst message
    rcases effect.answers running handling caller with kept | ⟨answer, answered, sender⟩
    · refine InTransit.post placed ⟨.handler address, .request address request, ?_, caller⟩ _
      simp [Cluster.transit, kept]
    · rw [answered]
      exact inTransit_posted (by simp [Message.client?, sender])
  · exact InTransit.post placed ⟨site, message, transit_setServer present here, caller⟩ _

theorem InTransit.answered {id : Nat} {address : String} {response : Response} {state : Client}
    (carried : InTransit cluster client)
    (found : cluster.net[id]? = some (.response address response))
    (other : client ≠ response.client) :
    InTransit ((cluster.take id).setClient response.client state) client := by
  obtain ⟨site, message, present, caller⟩ := carried
  refine InTransit.setClient.mpr ⟨site, message, transit_take present ?_, caller⟩
  intro here
  subst site
  have same : message = .response address response := Option.some.inj (present.symm.trans found)
  simp only [same, Message.client?, Option.some.injEq] at caller
  exact other caller.symm

/-! No process dies. -/

theorem Transparent.handler_running (trans : Transparent env contents cluster) {address : String}
    {action : ServerAction} {state : Server} {response : Option Response}
    (effect : ServerEffect contents (cluster.servers address) action state response)
    (faithful : Faithful cluster (.serve address action))
    (running : (cluster.servers address).handler ≠ .aborted) : state.handler ≠ .aborted := by
  cases effect with
  | readUnallocated handle inputVal accessfd offset failure reading negative =>
      obtain ⟨table, shown, mirror⟩ := trans.mirrors handle.client
      obtain ⟨fd, count, _, sameVal, _⟩ := mirror.asks (.handler address) address handle inputVal
        accessfd offset (by simp [Cluster.transit, reading, HandlerPc.request?]) rfl
      omega
  | readOverrun handle inputVal accessfd offset failure outcome reading allocated result overrun =>
      have works : failure = false := faithful
      subst failure
      obtain ⟨table, shown, mirror⟩ := trans.mirrors handle.client
      obtain ⟨plain, after, read, fits, _⟩ := mirror.servedRead trans.agreement rfl reading
      rw [result] at read
      exact absurd (read ▸ fits) overrun
  | closeFailed fd closing missing =>
      obtain ⟨descriptor, opened⟩ := trans.agreement.live (.inl (.handler address)) address fd
        (by simp [Cluster.owned, Cluster.transit, closing, HandlerPc.request?, Message.named?])
      simp [missing] at opened
  | closed fd descriptor closing found =>
      simp only
      split <;> simp
  | _ => simp_all

theorem Agreement.receive_ready (inv : Agreement env contents cluster) {id : Nat}
    {address : String} {response : Response}
    (found : cluster.net[id]? = some (.response address response)) :
    ∃ state, receive (cluster.clients response.client) response = some state ∧
      state.completion.ready ∧ state.pc = (cluster.clients response.client).pc ∧
      state.trace = (cluster.clients response.client).trace := by
  have expected := inv.expected (.net id) _ found
  cases response with
  | openOut handle retStatus =>
      obtain ⟨caller, callback⟩ := handle
      obtain ⟨path, ⟨file, mode, fd, blocked, same, _, _, unset⟩, _⟩ := expected
      simp only at same
      subst callback
      exact ⟨_, rfl, by simp [Completion.ready, Completion.openCb, Response.client, unset], rfl, rfl⟩
  | rpcOut handle ret pushed =>
      obtain ⟨caller, callback⟩ := handle
      obtain ⟨_, same, unset⟩ := expected
      simp only at same
      subst callback
      exact ⟨_, rfl, by simp [Completion.ready, Completion.readCb, Response.client, unset], rfl, rfl⟩

theorem alive_initial : Alive env contents Cluster.initial := by
  refine ⟨transparent_initial, fun _ => mutexInv_initial, ?_, ?_, ?_⟩
  · simp [Cluster.initial, Server.initial]
  · simp [Cluster.initial, Client.initial]
  · simp [Cluster.initial, Client.initial]

theorem ClusterEffect.alive {action : ClusterAction}
    (effect : ClusterEffect env contents cluster action next)
    (registered : ∀ client, Registered (env client)) (faithful : Faithful cluster action)
    (alive : Alive env contents cluster) : Alive env contents next := by
  have trans := effect.transparent faithful.servable alive.transparent
  have fresh := alive.transparent.agreement.ids
  cases effect with
  | called caller action state outgoing effect =>
      have running := effect.running (registered caller)
      refine ⟨trans, by simpa using alive.mutexes, by simpa using alive.handlers, ?_, ?_⟩
      · rw [clients_post]
        exact forall_setClient (fun _ client => client.pc ≠ .aborted) alive.running running
      · rw [clients_post]
        intro client blocked
        by_cases same : client = caller
        · subst client
          rw [clients_setClient_same] at blocked
          obtain ⟨address, request, sent, concerns⟩ := effect.sent running blocked
          rw [sent]
          exact Or.inr (inTransit_posted concerns)
        · rw [clients_setClient_other state same] at blocked ⊢
          refine (alive.pending client blocked).imp_right fun carried => ?_
          have placed : FreshIds (cluster.setClient caller state) := fresh
          exact InTransit.post placed (InTransit.setClient.mpr carried) _
  | accepted id address request state found effect =>
      refine ⟨trans, forall_setServer (fun _ server => MutexInv server) alive.mutexes
        (effect.mutexInv (alive.mutexes address)), ?_, alive.running, ?_⟩
      · refine forall_setServer (fun _ server => server.handler ≠ .aborted) alive.handlers ?_
        obtain ⟨_, holds⟩ := effect.accepted
        intro aborted
        simp [aborted, HandlerPc.request?] at holds
      · intro client blocked
        exact (alive.pending client blocked).imp_right fun carried => carried.accepted found effect
  | served address action state response serving effect =>
      have running := alive.transparent.handler_running effect faithful (alive.handlers address)
      refine ⟨trans, ?_, ?_, by simpa using alive.running, ?_⟩
      · rw [servers_post]
        exact forall_setServer (fun _ server => MutexInv server) alive.mutexes
          (effect.mutexInv (alive.mutexes address))
      · rw [servers_post]
        exact forall_setServer (fun _ server => server.handler ≠ .aborted) alive.handlers running
      · intro client blocked
        rw [clients_post, clients_setServer] at blocked ⊢
        exact (alive.pending client blocked).imp_right fun carried =>
          carried.served fresh effect running
  | answered id address response state found received =>
      obtain ⟨ready, same, readied, samePc, _⟩ :=
        alive.transparent.agreement.receive_ready found
      rw [received, Option.some.injEq] at same
      subst ready
      refine ⟨trans, alive.mutexes, alive.handlers, ?_, ?_⟩
      · refine forall_setClient (fun _ client => client.pc ≠ .aborted) alive.running ?_
        rw [samePc]
        exact alive.running _
      · intro client blocked
        by_cases here : client = response.client
        · subst client
          exact Or.inl (by simpa using readied)
        · rw [clients_setClient_other state here] at blocked ⊢
          exact (alive.pending client blocked).imp_right fun carried => carried.answered found here

/-! What has to happen before a call returns. -/

/-- The application makes no further call until this one has returned. -/
def Answering (client : Nat) (cluster : Cluster) (action : ClusterAction) : Prop :=
  Faithful cluster action ∧
    ∀ caller call, action = .call caller call → caller = client ∧ call = .wake

theorem clusterStep_serve {address : String} {action : ServerAction} {state : Server}
    {response : Option Response} (serving : ∀ request, action ≠ .accept request)
    (acted : serverAct contents (cluster.servers address) action = some (state, response)) :
    clusterStep env contents cluster (.serve address action) =
      some ((cluster.setServer address state).post (response.map (.response address))) := by
  have served : clusterStep env contents cluster (.serve address action) =
      serveStep contents cluster address action := by
    cases action with
    | accept request => exact absurd rfl (serving request)
    | _ => rfl
  rw [served, serveStep, acted]

def Server.moverWork (server : Server) : Nat :=
  match server.mover with
  | .locked => 1
  | .draining => server.dataQueue.length + 1
  | _ => 0

def Server.work (server : Server) : Nat :=
  match server.handler with
  | .openRpc _ _ => 2
  | .openRedirected _ _ _ => 1
  | .readRpc _ _ _ _ => 1
  | .closeRpc _ => 6 + server.moverWork
  | .closeLock _ => 5 + server.moverWork
  | .closeSignal _ => 4
  | .closePush _ => 3
  | .closeUnlock _ => 2
  | .closeErase _ => 1
  | _ => 0

theorem Transparent.open_present (trans : Transparent env contents cluster) {address : String}
    {handle : Handle} {path redirPath : String}
    (opening : (cluster.servers address).handler = .openRedirected handle path redirPath) :
    ((cluster.servers address).files contents redirPath).isSome := by
  have carried : cluster.transit (.handler address) =
      some (.request address (.openRpc handle path)) :=
    transit_handler (by rw [opening]; rfl)
  obtain ⟨file, mode, fd, blocked, _, tracked, _⟩ := trans.agreement.expected _ _ carried
  obtain ⟨table, shown, mirror⟩ := trans.mirrors handle.client
  obtain ⟨_, _, sameTracked, _, present⟩ := mirror.opening file mode fd blocked
  rw [tracked, Option.some.injEq] at sameTracked
  obtain ⟨bytes, source⟩ := Option.isSome_iff_exists.mp present
  have serves := (trans.agreement.descriptors address).redirected handle path redirPath opening
  rw [(trans.agreement.stores address).visible serves (sameTracked ▸ source)]
  rfl

def Nears (contents : String → Option Bytes) (server : Server) (action : ServerAction) : Prop :=
  ∃ state response, serverAct contents server action = some (state, response) ∧
    state.work < server.work

theorem MutexInv.lock_nears (contents : String → Option Bytes) {server : Server}
    (mutex : MutexInv server) {fd : Int} (locking : server.handler = .closeLock fd) :
    Nears contents server .lockQueue ∨ Nears contents server .moverWait ∨
      Nears contents server .moverDrain := by
  cases held : server.dataMutex with
  | none =>
      refine Or.inl ?_
      simp only [Nears, serverAct, threadAct, lockQueueStep, locking, held, silent, reduceCtorEq,
        if_false, Option.map_some, Option.some.injEq, Prod.mk.injEq]
      refine ⟨_, none, ⟨rfl, rfl⟩, ?_⟩
      simp only [Server.work, locking]
      omega
  | some holder =>
      cases holder with
      | progress =>
          have holding := mutex.progress.mpr held
          simp [locking, HandlerPc.holdsMutex] at holding
      | mover =>
          have holding := mutex.mover.mpr held
          cases moving : server.mover with
          | locked =>
              refine Or.inr (Or.inl ?_)
              simp [Nears, serverAct, threadAct, moverWaitStep, moving, silent, Server.work, locking,
                Server.moverWork]
          | draining =>
              refine Or.inr (Or.inr ?_)
              cases queued : server.dataQueue with
              | nil =>
                  simp [Nears, serverAct, threadAct, moverDrainStep, moving, queued, silent,
                    Server.work, locking, Server.moverWork]
              | cons path rest =>
                  simp [Nears, serverAct, threadAct, moverDrainStep, moving, queued, silent,
                    Server.work, locking, Server.moverWork]
          | _ => simp [moving, MoverPc.holdsMutex] at holding

theorem Alive.busy_nears (alive : Alive env contents cluster) (address : String)
    (busy : (cluster.servers address).handler ≠ .idle) :
    ∃ action, (∀ request, action ≠ .accept request) ∧ Faithful cluster (.serve address action) ∧
      Nears contents (cluster.servers address) action := by
  cases handling : (cluster.servers address).handler with
  | idle => exact absurd handling busy
  | aborted => exact absurd handling (alive.handlers address)
  | openRpc handle path =>
      refine ⟨.redirect, by simp, trivial, ?_⟩
      simp [Nears, serverAct, threadAct, redirectStep, handling, silent, Server.work]
  | openRedirected handle path redirPath =>
      obtain ⟨fd, unused⟩ := exists_unused (cluster.servers address).kernel
      have present := alive.transparent.open_present handling
      have lower := unused.1
      refine ⟨.openFile fd, by simp, (by omega : fd ≠ -1), ?_⟩
      simp [Nears, serverAct, threadAct, openFileStep, handling, unused, present, Server.work]
  | readRpc handle inputVal accessfd offset =>
      refine ⟨.readFile false, by simp, rfl, ?_⟩
      simp only [Nears, serverAct, threadAct, readFileStep, handling, reduceCtorEq, if_false]
      split
      · simp [Server.work, handling]
      · split <;> simp [Server.work, handling]
  | closeRpc fd =>
      refine ⟨.closeFd, by simp, trivial, ?_⟩
      simp only [Nears, serverAct, threadAct, closeFdStep, handling, silent, reduceCtorEq, if_false]
      split
      · split
        · simp [Server.work, handling, Server.moverWork]
        · simp only [Option.map_some, Option.some.injEq, Prod.mk.injEq]
          refine ⟨_, none, ⟨rfl, rfl⟩, ?_⟩
          simp only [Server.work, handling]
          omega
      · simp only [Option.map_some, Option.some.injEq, Prod.mk.injEq]
        refine ⟨_, none, ⟨rfl, rfl⟩, ?_⟩
        simp only [Server.work, handling]
        omega
  | closeLock fd =>
      rcases (alive.mutexes address).lock_nears contents handling with nears | nears | nears
      · exact ⟨.lockQueue, by simp, trivial, nears⟩
      · exact ⟨.moverWait, by simp, trivial, nears⟩
      · exact ⟨.moverDrain, by simp, trivial, nears⟩
  | closeSignal fd =>
      refine ⟨.signalMover, by simp, trivial, ?_⟩
      simp [Nears, serverAct, threadAct, signalMoverStep, handling, silent, Server.work]
  | closePush fd =>
      refine ⟨.pushPath, by simp, trivial, ?_⟩
      simp [Nears, serverAct, threadAct, pushPathStep, handling, silent, Server.work]
  | closeUnlock fd =>
      refine ⟨.unlockQueue, by simp, trivial, ?_⟩
      simp [Nears, serverAct, threadAct, unlockQueueStep, handling, silent, Server.work]
  | closeErase fd =>
      refine ⟨.erasePath, by simp, trivial, ?_⟩
      simp [Nears, serverAct, threadAct, erasePathStep, handling, silent, Server.work]

/-! The way of a blocked call to its return. -/

def Returned (env : Nat → ClientEnv) (contents : String → Option Bytes) (client : Nat)
    (trace : List Event) (cluster : Cluster) : Prop :=
  Alive env contents cluster ∧ (cluster.clients client).pc = .idle ∧
    ∃ event, (cluster.clients client).trace = trace ++ [event]

def Handled (cluster : Cluster) (client : Nat) (address : String) : Prop :=
  ∃ request, (cluster.servers address).handler.request? = some request ∧
    (Message.request address request).client? = some client

def Answered (cluster : Cluster) (client : Nat) : Prop :=
  ∃ (id : Nat) (address : String) (response : Response),
    cluster.net[id]? = some (.response address response) ∧ response.client = client

theorem wakeStep_returns (contents : String → Option Bytes) {state : Client}
    (ready : state.completion.ready) (running : state.pc ≠ .aborted) (blocked : state.pc ≠ .idle) :
    ∃ woken, wakeStep contents state = some woken ∧ woken.pc = .idle ∧
      ∃ event, woken.trace = state.trace ++ [event] := by
  unfold wakeStep
  rw [if_pos ready]
  cases calling : state.pc with
  | idle => exact absurd calling blocked
  | aborted => exact absurd calling running
  | openBlock file mode fd => exact ⟨_, rfl, rfl, _, rfl⟩
  | readBlock fd count =>
      simp only
      split
      · exact ⟨_, rfl, rfl, _, rfl⟩
      · exact ⟨_, rfl, rfl, _, rfl⟩
  | preadBlock fd count offset =>
      simp only
      split
      · exact ⟨_, rfl, rfl, _, rfl⟩
      · exact ⟨_, rfl, rfl, _, rfl⟩

theorem clientAct_wake (environment : ClientEnv) (self : Nat) (state : Client) :
    clientAct environment contents self state .wake =
      (wakeStep contents state).map fun woken => (woken, none) := by
  unfold clientAct
  cases state.pc <;> rfl

section
variable (registered : ∀ client, Registered (env client))
include registered

theorem Alive.ready_returns (alive : Alive env contents cluster)
    (blocked : (cluster.clients client).pc ≠ .idle)
    (ready : (cluster.clients client).completion.ready) :
    Reaches (clusterStep env contents) (Answering client)
      (Returned env contents client (cluster.clients client).trace) cluster := by
  obtain ⟨woken, wakes, idle, event, traced⟩ :=
    wakeStep_returns contents ready (alive.running client) blocked
  have stepped : clusterStep env contents cluster (.call client .wake) =
      some (cluster.setClient client woken) := by
    simp [clusterStep, callStep, clientAct_wake, wakes, Cluster.post]
  have kept := (clusterStep_effect stepped).alive registered trivial alive
  refine Reaches.after stepped ⟨trivial, by simp⟩ (Reaches.here ⟨kept, ?_, event, ?_⟩)
  · simpa using idle
  · simpa using traced

theorem Alive.answered_returns (alive : Alive env contents cluster)
    (blocked : (cluster.clients client).pc ≠ .idle) (answered : Answered cluster client) :
    Reaches (clusterStep env contents) (Answering client)
      (Returned env contents client (cluster.clients client).trace) cluster := by
  obtain ⟨id, address, response, found, caller⟩ := answered
  subst client
  obtain ⟨state, received, ready, samePc, sameTrace⟩ :=
    alive.transparent.agreement.receive_ready found
  have stepped : clusterStep env contents cluster (.deliverResponse id) =
      some ((cluster.take id).setClient response.client state) := by
    simp [clusterStep, deliverResponseStep, found, received]
  have kept := (clusterStep_effect stepped).alive registered trivial alive
  have still : (((cluster.take id).setClient response.client state).clients response.client).pc ≠
      .idle := by simpa [samePc] using blocked
  have returns := kept.ready_returns registered still (by simpa using ready)
  rw [clients_setClient_same, sameTrace] at returns
  exact Reaches.after stepped ⟨trivial, by simp⟩ returns

theorem Alive.serve_nears (alive : Alive env contents cluster) (client : Nat) {address : String}
    (busy : (cluster.servers address).handler ≠ .idle) :
    ∃ action state response,
      Answering client cluster (.serve address action) ∧
      clusterStep env contents cluster (.serve address action) =
        some ((cluster.setServer address state).post (response.map (.response address))) ∧
      ServerEffect contents (cluster.servers address) action state response ∧
      Alive env contents ((cluster.setServer address state).post
        (response.map (.response address))) ∧
      state.work < (cluster.servers address).work := by
  obtain ⟨action, serving, faithful, state, response, acted, less⟩ := alive.busy_nears address busy
  have stepped : clusterStep env contents cluster (.serve address action) =
      some ((cluster.setServer address state).post (response.map (.response address))) :=
    clusterStep_serve serving acted
  exact ⟨action, state, response, ⟨faithful, by simp⟩, stepped, serverAct_effect acted,
    (clusterStep_effect stepped).alive registered faithful alive, less⟩

theorem Alive.handled_returns (alive : Alive env contents cluster) {address : String}
    (blocked : (cluster.clients client).pc ≠ .idle) (handled : Handled cluster client address) :
    Reaches (clusterStep env contents) (Answering client)
      (Returned env contents client (cluster.clients client).trace) cluster := by
  have served : Reaches (clusterStep env contents) (Answering client)
      (fun final => (Alive env contents final ∧ final.clients client = cluster.clients client ∧
        (Handled final client address ∨ Answered final client)) ∧ Answered final client)
      cluster := by
    refine reaches_of_decreasing _ (fun state => (state.servers address).work) ?_
      ⟨alive, rfl, Or.inl handled⟩
    rintro middle ⟨alive, same, handled | answered⟩
    · obtain ⟨request, handling, caller⟩ := handled
      have busy : (middle.servers address).handler ≠ .idle := by
        intro idle
        simp [idle, HandlerPc.request?] at handling
      obtain ⟨action, state, response, answering, stepped, effect, kept, less⟩ :=
        alive.serve_nears registered client busy
      have running : state.handler ≠ .aborted := by simpa using kept.handlers address
      refine Or.inr ⟨_, _, answering, stepped, ⟨kept, by simpa using same, ?_⟩, by simpa using less⟩
      rcases effect.answers running handling caller with held | ⟨answer, sent, sender⟩
      · exact Or.inl ⟨request, by simpa using held, caller⟩
      · refine Or.inr ⟨middle.nextId, address, answer, ?_, sender⟩
        simp [sent, Cluster.post, Cluster.setServer]
    · exact Or.inl answered
  refine served.trans ?_
  rintro middle ⟨⟨alive, same, _⟩, answered⟩
  rw [← same] at blocked ⊢
  exact alive.answered_returns registered blocked answered

theorem Alive.requested_returns (alive : Alive env contents cluster) {id : Nat} {address : String}
    {request : Request} (blocked : (cluster.clients client).pc ≠ .idle)
    (found : cluster.net[id]? = some (.request address request))
    (caller : (Message.request address request).client? = some client) :
    Reaches (clusterStep env contents) (Answering client)
      (Returned env contents client (cluster.clients client).trace) cluster := by
  have freed : Reaches (clusterStep env contents) (Answering client)
      (fun final => (Alive env contents final ∧ final.clients client = cluster.clients client ∧
        final.net[id]? = some (.request address request)) ∧
        (final.servers address).handler = .idle) cluster := by
    refine reaches_of_decreasing _ (fun state => (state.servers address).work) ?_
      ⟨alive, rfl, found⟩
    rintro middle ⟨alive, same, found⟩
    by_cases idle : (middle.servers address).handler = .idle
    · exact Or.inl idle
    · obtain ⟨action, state, response, answering, stepped, _, kept, less⟩ :=
        alive.serve_nears registered client idle
      refine Or.inr ⟨_, _, answering, stepped, ⟨kept, by simpa using same, ?_⟩, by simpa using less⟩
      have fresh : FreshIds (middle.setServer address state) := alive.transparent.agreement.ids
      have carried : (middle.setServer address state).transit (.net id) =
          some (.request address request) := found
      exact transit_post fresh carried _
  refine freed.trans ?_
  rintro middle ⟨⟨alive, same, found⟩, idle⟩
  rw [← same] at blocked ⊢
  obtain ⟨state, accepted⟩ : ∃ state,
      serverAct contents (middle.servers address) (.accept request) = some (state, none) := by
    cases request <;> simp [serverAct, threadAct, acceptRequest, idle, silent]
  obtain ⟨_, holds⟩ := (serverAct_effect accepted).accepted
  have stepped : clusterStep env contents middle (.deliverRequest id) =
      some ((middle.take id).setServer address state) := by
    simp [clusterStep, deliverRequestStep, found, accepted]
  have kept := (clusterStep_effect stepped).alive registered trivial alive
  have handled : Handled ((middle.take id).setServer address state) client address :=
    ⟨request, by simpa using holds, caller⟩
  have returns := kept.handled_returns registered (by simpa using blocked) handled
  exact Reaches.after stepped ⟨trivial, by simp⟩ returns

theorem Alive.returns (alive : Alive env contents cluster)
    (blocked : (cluster.clients client).pc ≠ .idle) :
    Reaches (clusterStep env contents) (Answering client)
      (Returned env contents client (cluster.clients client).trace) cluster := by
  rcases alive.pending client blocked with ready | ⟨site, message, carried, caller⟩
  · exact alive.ready_returns registered blocked ready
  · cases site with
    | net id =>
        cases message with
        | request address request => exact alive.requested_returns registered blocked carried caller
        | response address response =>
            exact alive.answered_returns registered blocked
              ⟨id, address, response, carried, Option.some.inj caller⟩
    | handler address =>
        obtain ⟨request, handling, same⟩ := Option.map_eq_some_iff.mp carried
        subst message
        exact alive.handled_returns registered blocked ⟨request, handling, caller⟩

end

end

end HvacCache
