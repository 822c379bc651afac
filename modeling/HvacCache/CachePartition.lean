import HvacCache.ReadTransparency

/-! Which server gets to know which files. Requests about a path go to the server that the
hash of the path picks, so no two servers copy the same file to their nodes. -/

namespace HvacCache

open Posix Transition

structure Knows (permitted : String → Prop) (server : Server) : Prop where
  handler : ∀ handle path, server.handler.opening? = some (handle, path) → permitted path
  fdToPath : ∀ (fd : Int) (path : String), server.fdToPath[fd]? = some path → permitted path
  dataQueue : ∀ path ∈ server.dataQueue, permitted path
  localList : ∀ path ∈ server.localList, permitted path
  cached : ∀ path filename : String, server.pathCacheMap[path]? = some filename → permitted path
  copies : ∀ entry ∈ server.log.copies, permitted entry.1

section
variable {permitted : String → Prop} {contents : String → Option Bytes} {server next : Server}
  {action : ServerAction} {response : Option Response}

theorem knows_initial : Knows permitted Server.initial := by
  constructor <;> simp [Server.initial, HandlerPc.opening?]

theorem ServerEffect.knows (effect : ServerEffect contents server action next response)
    (asked : ∀ handle path, action = .accept (.openRpc handle path) → permitted path)
    (descriptors : DescriptorInv server) (known : Knows permitted server) :
    Knows permitted next := by
  obtain ⟨handler, fdToPath, dataQueue, localList, cached, copies⟩ := known
  have keeps : ∀ state : Server, state.handler.opening? = none → state.fdToPath = server.fdToPath →
      state.dataQueue = server.dataQueue → state.localList = server.localList →
      state.pathCacheMap = server.pathCacheMap → state.log.copies = server.log.copies →
      Knows permitted state := by
    intro state quiet sameFds sameQueue sameList sameCache sameCopies
    exact ⟨by simp [quiet], sameFds ▸ fdToPath, sameQueue ▸ dataQueue, sameList ▸ localList,
      sameCache ▸ cached, sameCopies ▸ copies⟩
  cases effect with
  | acceptOpen handle path idle =>
      refine ⟨?_, fdToPath, dataQueue, localList, cached, copies⟩
      intro other original opening
      simp only [HandlerPc.opening?, Option.some.injEq, Prod.mk.injEq] at opening
      exact opening.2 ▸ asked handle path rfl
  | redirect handle path opening =>
      refine ⟨?_, fdToPath, dataQueue, localList, cached, copies⟩
      intro other original same
      simp only [HandlerPc.opening?, Option.some.injEq, Prod.mk.injEq] at same
      exact same.2 ▸ handler handle path (by rw [opening]; rfl)
  | openFailed handle path redirPath opening =>
      have fine : permitted path := handler handle path (by rw [opening]; rfl)
      exact ⟨by simp [HandlerPc.opening?],
        OrderedMap.forall_insert (fun _ path => permitted path) fdToPath fine, dataQueue, localList,
        cached, copies⟩
  | opened handle path redirPath fd opening unused present =>
      have fine : permitted path := handler handle path (by rw [opening]; rfl)
      exact ⟨by simp [HandlerPc.opening?],
        OrderedMap.forall_insert (fun _ path => permitted path) fdToPath fine, dataQueue, localList,
        cached, copies⟩
  | closed fd descriptor closing found =>
      obtain ⟨_, _, path, recorded, _⟩ := descriptors.recorded fd descriptor found
      rw [OrderedMap.index_of_some recorded]
      refine ⟨?_, fdToPath, dataQueue, localList, cached, copies⟩
      intro handle path same
      simp only at same
      split at same <;> simp [HandlerPc.opening?] at same
  | pushPath fd pushing =>
      obtain ⟨_, path, recorded⟩ := descriptors.forgetting fd (by rw [pushing]; rfl)
      rw [OrderedMap.index_of_some recorded]
      refine ⟨by simp [HandlerPc.opening?], fdToPath, ?_, localList, cached, copies⟩
      intro other member
      rcases List.mem_append.mp member with old | new
      · exact dataQueue other old
      · exact List.mem_singleton.mp new ▸ fdToPath fd path recorded
  | erasePath fd erasing =>
      refine ⟨by simp [HandlerPc.opening?], ?_, dataQueue, localList, cached, copies⟩
      intro other path found
      exact fdToPath other path (OrderedMap.found_erase found).2
  | drained path rest draining queued =>
      rw [queued] at dataQueue
      refine ⟨handler, fdToPath, fun other member => dataQueue other (by simp [member]), ?_, cached,
        copies⟩
      intro other member
      rcases List.mem_append.mp member with old | new
      · exact localList other old
      · exact dataQueue other (by simp [List.mem_singleton.mp new])
  | copied filename path rest bytes writing front source complete =>
      have fine : permitted path := localList path (by simp [front])
      refine ⟨handler, fdToPath, dataQueue, localList,
        OrderedMap.forall_insert (fun path _ => permitted path) cached fine, ?_⟩
      intro entry member
      rcases List.mem_append.mp member with old | new
      · exact copies entry old
      · exact List.mem_singleton.mp new ▸ fine
  | popped path rest popping front =>
      rw [front] at localList
      exact ⟨handler, fdToPath, dataQueue, fun other member => localList other (by simp [member]),
        cached, copies⟩
  | acceptRead | acceptClose | readUnallocated | readDone | readOverrun | closeFailed | lockQueue
  | signalled | signalLost | unlockQueue =>
      apply keeps <;> rfl
  | _ => exact ⟨handler, fdToPath, dataQueue, localList, cached, copies⟩

end

section
variable {environment : ClientEnv} {contents : String → Option Bytes} {self : Nat}
  {client state : Client} {action : ClientAction} {outgoing : Outgoing}

theorem cacheInv_initial : CacheInv environment Client.initial.addressCache := by
  intro rank address found
  simp [Client.initial] at found

theorem ClientEffect.routed
    (effect : ClientEffect environment contents self client action state outgoing)
    (inv : CacheInv environment client.addressCache) :
    CacheInv environment state.addressCache ∧
      ∀ address handle path, outgoing = some (address, .openRpc handle path) →
        addressOf environment path = some address := by
  cases effect with
  | openTracked pathname flags fd path address cache idle unused present tracked routed =>
      obtain ⟨located, kept⟩ := route_address inv routed
      refine ⟨kept, ?_⟩
      intro other handle asked sent
      simp only [Option.some.injEq, Prod.mk.injEq, Request.openRpc.injEq] at sent
      rw [← sent.1, ← sent.2.2]
      exact located
  | readTracked fd count path address cache idle tracked routed =>
      exact ⟨(route_address inv routed).2, by simp⟩
  | preadTracked fd count offset path address cache idle tracked redirected routed =>
      exact ⟨(route_address inv routed).2, by simp⟩
  | closeTracked fd path address cache idle tracked routed =>
      exact ⟨(route_address inv routed).2, by simp⟩
  | aborted action path idle unrouted => exact ⟨cacheInv_initial, by simp⟩
  | _ => exact ⟨inv, by simp⟩

end

/-- The path is one that the clients of the job ask the server at `address` for. -/
def Belongs (common : ClientEnv) (address path : String) : Prop :=
  addressOf common path = some address

structure Partitioned (common : ClientEnv) (env : Nat → ClientEnv)
    (contents : String → Option Bytes) (cluster : Cluster) : Prop where
  caches : ∀ client, CacheInv (env client) (cluster.clients client).addressCache
  asked : ∀ (id : Nat) (address path : String) (handle : Handle),
    cluster.net[id]? = some (.request address (.openRpc handle path)) →
    addressOf common path = some address
  stores : ∀ address, StoreInv contents (cluster.servers address)
  descriptors : ∀ address, DescriptorInv (cluster.servers address)
  servers : ∀ address, Knows (Belongs common address) (cluster.servers address)

section
variable {common : ClientEnv} {env : Nat → ClientEnv} {contents : String → Option Bytes}
  {cluster next : Cluster} {action : ClusterAction}

theorem partitioned_initial : Partitioned common env contents Cluster.initial := by
  refine ⟨fun _ => cacheInv_initial, ?_, fun _ => storeInv_initial, fun _ => descriptorInv_initial,
    fun _ => knows_initial⟩
  intro id address path handle found
  simp [Cluster.initial] at found

theorem Partitioned.post (parted : Partitioned common env contents cluster)
    {message : Option Message}
    (fine : ∀ address handle path, message = some (.request address (.openRpc handle path)) →
      addressOf common path = some address) :
    Partitioned common env contents (cluster.post message) := by
  refine ⟨by simpa using parted.caches, ?_, by simpa using parted.stores,
    by simpa using parted.descriptors, by simpa using parted.servers⟩
  intro id address path handle found
  cases message with
  | none => exact parted.asked id address path handle found
  | some message =>
      rcases OrderedMap.found_insert found with ⟨_, same⟩ | ⟨_, old⟩
      · exact fine address handle path (by rw [same])
      · exact parted.asked id address path handle old

theorem Partitioned.take (parted : Partitioned common env contents cluster) (id : Nat) :
    Partitioned common env contents (cluster.take id) := by
  refine ⟨parted.caches, ?_, parted.stores, parted.descriptors, parted.servers⟩
  intro other address path handle found
  exact parted.asked other address path handle (OrderedMap.found_erase found).2

theorem Partitioned.setServer (parted : Partitioned common env contents cluster) {address : String}
    {action : ServerAction} {state : Server} {response : Option Response}
    (effect : ServerEffect contents (cluster.servers address) action state response)
    (asked : ∀ handle path, action = .accept (.openRpc handle path) →
      addressOf common path = some address) :
    Partitioned common env contents (cluster.setServer address state) := by
  refine ⟨parted.caches, parted.asked, ?_, ?_, ?_⟩
  · exact forall_setServer (fun _ server => StoreInv contents server) parted.stores
      (effect.storeInv (parted.stores address))
  · exact forall_setServer (fun _ server => DescriptorInv server) parted.descriptors
      (effect.descriptorInv (parted.stores address) (parted.descriptors address))
  · exact forall_setServer (fun address server => Knows (Belongs common address) server)
      parted.servers (effect.knows asked (parted.descriptors address) (parted.servers address))

theorem Partitioned.setClient (parted : Partitioned common env contents cluster) {client : Nat}
    {state : Client} (cache : CacheInv (env client) state.addressCache) :
    Partitioned common env contents (cluster.setClient client state) := by
  refine ⟨?_, parted.asked, parted.stores, parted.descriptors, parted.servers⟩
  exact forall_setClient (fun client state => CacheInv (env client) state.addressCache)
    parted.caches cache

theorem ClusterEffect.partitioned (shared : ∀ client, addressOf (env client) = addressOf common)
    (effect : ClusterEffect env contents cluster action next)
    (parted : Partitioned common env contents cluster) :
    Partitioned common env contents next := by
  cases effect with
  | called client action state outgoing effect =>
      obtain ⟨cache, sent⟩ := effect.routed (parted.caches client)
      refine (parted.setClient cache).post ?_
      intro address handle path posted
      obtain ⟨outgoing, same, request⟩ := Option.map_eq_some_iff.mp posted
      simp only [Message.request.injEq] at request
      rw [← shared client]
      exact sent address handle path (by rw [same, ← request.1, ← request.2])
  | accepted id address request state found effect =>
      refine (parted.take id).setServer effect ?_
      intro handle path accepted
      rw [ServerAction.accept.injEq] at accepted
      exact parted.asked id address path handle (accepted ▸ found)
  | served address action state response serving effect =>
      refine (parted.setServer effect ?_).post ?_
      · intro handle path accepted
        exact absurd accepted (serving _)
      · intro other handle path posted
        obtain ⟨response, _, same⟩ := Option.map_eq_some_iff.mp posted
        simp at same
  | answered id address response state found received =>
      refine (parted.take id).setClient ?_
      have kept : state.addressCache = (cluster.clients response.client).addressCache := by
        rcases receive_effect received with ⟨_, _, _, _, after⟩ | ⟨_, _, _, _, after⟩ <;> rw [after]
      exact kept ▸ parted.caches response.client

theorem run_partitioned (shared : ∀ client, addressOf (env client) = addressOf common)
    {actions : List ClusterAction}
    (ran : run (clusterStep env contents) Cluster.initial actions = some cluster) :
    Partitioned common env contents cluster := by
  have preserved : ∀ before action after, Partitioned common env contents before →
      clusterStep env contents before action = some after →
      Partitioned common env contents after :=
    fun _ _ _ parted stepped => (clusterStep_effect stepped).partitioned shared parted
  exact run_invariant preserved partitioned_initial ran

end

/-- In every run of the cluster, server failures and lost clients included, all that a server
opens, queues and caches are paths whose hash picks it, and no file is ever copied to the
nodes of two servers. -/
theorem caches_are_disjoint (common : ClientEnv) (env : Nat → ClientEnv)
    (contents : String → Option Bytes) (shared : ∀ client, addressOf (env client) = addressOf common)
    (actions : List ClusterAction) (cluster : Cluster)
    (ran : run (clusterStep env contents) Cluster.initial actions = some cluster) :
    (∀ address, Knows (Belongs common address) (cluster.servers address)) ∧
    (∀ address path filename : String,
      (cluster.servers address).pathCacheMap[path]? = some filename →
      addressOf common path = some address) ∧
    ∀ first second path filename other,
      (path, filename) ∈ (cluster.servers first).log.copies →
      (path, other) ∈ (cluster.servers second).log.copies → first = second := by
  have parted : Partitioned common env contents cluster := run_partitioned shared ran
  refine ⟨parted.servers, ?_, ?_⟩
  · intro address path filename cached
    exact (parted.servers address).cached path filename cached
  · intro first second path filename other here there
    have located : Belongs common first path := (parted.servers first).copies (path, filename) here
    have again : Belongs common second path := (parted.servers second).copies (path, other) there
    exact Option.some.inj (located.symm.trans again)

theorem caches_are_disjoint_readAgain : ∃ cluster,
    run (clusterStep (fun _ => twoServers) oneFile) Cluster.initial readAgain = some cluster ∧
    (cluster.servers "s0").log.copies = [("/d/f", "/bb/AAA/f")] ∧
    (∀ address, Knows (Belongs twoServers address) (cluster.servers address)) ∧
    (∀ address path filename : String,
      (cluster.servers address).pathCacheMap[path]? = some filename →
      addressOf twoServers path = some address) ∧
    ∀ first second path filename other,
      (path, filename) ∈ (cluster.servers first).log.copies →
      (path, other) ∈ (cluster.servers second).log.copies → first = second := by
  have reached : (run (clusterStep (fun _ => twoServers) oneFile) Cluster.initial readAgain).map
      (fun cluster => (cluster.servers "s0").log.copies) = some [("/d/f", "/bb/AAA/f")] := by decide
  obtain ⟨cluster, ran, copied⟩ := Option.map_eq_some_iff.mp reached
  exact ⟨cluster, ran, copied, caches_are_disjoint twoServers (fun _ => twoServers) oneFile
    (fun _ => rfl) readAgain cluster ran⟩

end HvacCache
