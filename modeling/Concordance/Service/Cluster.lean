import Concordance.Cluster.Coordinator
import Concordance.Service.Reply

/-!
# The cluster service

Requests that route a key, or look at the load and at the members.

* `ClusterService.route`: routes a key.
* `ClusterService.load`, `ClusterService.snapshot`: the load of one endpoint and of all.
* `ClusterService.nodes`: the members.
-/

namespace Concordance

/-- A key to route. -/
structure RouteRequest where
  key : String
  deriving DecidableEq

/-- The route of a key, or why there is none. -/
structure RouteResponse where
  key : String
  partition : UInt32
  node : Option Node
  endpoint : Option Endpoint
  load : Option UInt64
  error : Option String
  deriving DecidableEq

/-- The load of the endpoint that was asked for, if it was one. -/
structure LoadResponse where
  endpoint : String
  load : Option UInt64
  deriving DecidableEq

/-- An endpoint with its load. -/
structure LoadEntry where
  endpoint : Endpoint
  load : UInt64
  deriving DecidableEq

/-- Every endpoint that work went to. -/
structure SnapshotResponse where
  entries : List LoadEntry
  deriving DecidableEq

/-- The members, and how many of them are alive. -/
structure NodesResponse where
  aliveCount : UInt64
  members : List Node
  deriving DecidableEq

namespace ClusterService

/-- Routes a key, counts the work, and answers with the route. -/
def route (request : RouteRequest) : StateM Coordinator (Reply RouteResponse) := do
  let partition := (← get).placement.partitionOf request.key
  match ← Coordinator.route request.key with
  | .ok r =>
    return ⟨.ok, ⟨request.key, partition, some r.node, some r.endpoint, some r.load, none⟩⟩
  | .error e =>
    return ⟨.unavailable, ⟨request.key, partition, none, none, none, some e.message⟩⟩

/-- The load of the endpoint that `text` writes. -/
def load (c : Coordinator) (text : String) : Reply LoadResponse :=
  match Endpoint.read text with
  | .ok e => ⟨.ok, ⟨e.display, some (c.load.get e)⟩⟩
  | .error _ => ⟨.badRequest, ⟨text, none⟩⟩

/-- The load of every endpoint that work went to. -/
def snapshot (c : Coordinator) : Reply SnapshotResponse :=
  ⟨.ok, ⟨c.load.snapshot.map fun (e, n) => ⟨e, n⟩⟩⟩

/-- The members. -/
def nodes (c : Coordinator) : Reply NodesResponse :=
  let members := c.membership.members
  ⟨.ok, ⟨UInt64.ofNat (members.countP Node.isAlive), members⟩⟩

end ClusterService

end Concordance
