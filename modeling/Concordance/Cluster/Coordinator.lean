import Concordance.Cluster.Membership
import Concordance.Cluster.Placement
import Concordance.Cluster.Routing

/-!
# Coordination

A coordinator sends the work on a key to the least loaded of the live nodes that
hold the key's partition, and counts it.

* `Coordinator.route`, `Coordinator.dispatch`: the route of a key and of a document.
-/

namespace Concordance

/-- What is needed to route work: where keys are placed, the port that all nodes
share, the members and the load. -/
structure Coordinator where
  placement : Placement
  port : UInt16
  membership : Membership
  load : LoadTable

namespace Coordinator

/-- The endpoints that can serve a key now. -/
def eligible (c : Coordinator) (key : String) : SortedSet Endpoint :=
  c.placement.eligible key c.membership.aliveMembers c.port

/-- Chooses the route of a key and counts one piece of work for its endpoint. -/
def route (key : String) : StateM Coordinator (Except RoutingError Route) := fun c =>
  match Routing.choose c.membership.aliveMembers c.load (c.eligible key) c.port with
  | .ok r => (.ok r, { c with load := (c.load.record r.endpoint).2 })
  | .error e => (.error e, c)

/-- The key of a document: its number in decimal. -/
def documentKey (number : UInt64) : String := String.ofList (Decimal.digits number.toNat)

/-- Routes the work on a document. -/
def dispatch (number : UInt64) : StateM Coordinator (Except RoutingError Route) :=
  route (documentKey number)

/-- Lets a node join. -/
def join (n : Node) : StateM Coordinator Unit := fun c =>
  ((), { c with membership := c.membership.join n })

/-- Changes the state of a node, and says whether the node is known. -/
def setState (id : NodeId) (state : NodeState) : StateM Coordinator Bool := fun c =>
  let (known, membership) := c.membership.setState id state
  (known, { c with membership })

/-- Counts one piece of work for an endpoint and gives its new load. -/
def record (e : Endpoint) : StateM Coordinator UInt64 := fun c =>
  let (count, load) := c.load.record e
  (count, { c with load })

end Coordinator

end Concordance
