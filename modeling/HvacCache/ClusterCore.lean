import HvacCache.ClientCore

/-! Any number of clients and servers with the messages between them. A message is
delivered once, after any delay and in any order; servers are known by their address. -/

namespace HvacCache

open Posix

inductive Message
  | request (address : String) (request : Request)
  | response (address : String) (response : Response)
deriving DecidableEq, Repr

def Response.client : Response → Nat
  | .openOut handle _ => handle.client
  | .rpcOut handle _ _ => handle.client

structure Cluster where
  clients : Nat → Client
  servers : String → Server
  net : OrderedMap Nat Message
  nextId : Nat

def Cluster.initial : Cluster := {
  clients := fun _ => .initial
  servers := fun _ => .initial
  net := ∅
  nextId := 0
}

inductive ClusterAction
  | call (client : Nat) (action : ClientAction)
  | deliverRequest (id : Nat)
  | serve (address : String) (action : ServerAction)
  | deliverResponse (id : Nat)
deriving DecidableEq, Repr

def Cluster.setClient (cluster : Cluster) (client : Nat) (state : Client) : Cluster :=
  { cluster with clients := Function.update cluster.clients client state }

def Cluster.setServer (cluster : Cluster) (address : String) (state : Server) : Cluster :=
  { cluster with servers := Function.update cluster.servers address state }

def Cluster.post (cluster : Cluster) : Option Message → Cluster
  | none => cluster
  | some message => { cluster with
      net := cluster.net.insert cluster.nextId message
      nextId := cluster.nextId + 1 }

def Cluster.take (cluster : Cluster) (id : Nat) : Cluster :=
  { cluster with net := cluster.net.erase id }

def callStep (env : Nat → ClientEnv) (contents : String → Option Bytes) (cluster : Cluster)
    (client : Nat) (action : ClientAction) : Option Cluster :=
  match clientAct (env client) contents client (cluster.clients client) action with
  | none => none
  | some (state, outgoing) =>
      some ((cluster.setClient client state).post
        (outgoing.map fun sent => .request sent.1 sent.2))

/-- The progress thread of a server takes up a request once it is through with the last. -/
def deliverRequestStep (contents : String → Option Bytes) (cluster : Cluster) (id : Nat) :
    Option Cluster :=
  match cluster.net[id]? with
  | some (.request address request) =>
      match serverAct contents (cluster.servers address) (.accept request) with
      | none => none
      | some (state, _) => some ((cluster.take id).setServer address state)
  | _ => none

def serveStep (contents : String → Option Bytes) (cluster : Cluster) (address : String)
    (action : ServerAction) : Option Cluster :=
  match serverAct contents (cluster.servers address) action with
  | none => none
  | some (state, response) =>
      some ((cluster.setServer address state).post (response.map (.response address)))

def deliverResponseStep (cluster : Cluster) (id : Nat) : Option Cluster :=
  match cluster.net[id]? with
  | some (.response _ response) =>
      match receive (cluster.clients response.client) response with
      | none => none
      | some state => some ((cluster.take id).setClient response.client state)
  | _ => none

/-- Each client has an environment of its own; all see the same files. -/
def clusterStep (env : Nat → ClientEnv) (contents : String → Option Bytes) (cluster : Cluster) :
    ClusterAction → Option Cluster
  | .call client action => callStep env contents cluster client action
  | .deliverRequest id => deliverRequestStep contents cluster id
  | .serve _ (.accept _) => none
  | .serve address action => serveStep contents cluster address action
  | .deliverResponse id => deliverResponseStep cluster id

end HvacCache
