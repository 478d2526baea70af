import Concordance.Cluster.Endpoint

/-!
# Nodes of the cluster

A node has an identifier, the addresses it advertises, and a state. It serves
documents under each of its addresses, at the one port that all nodes share.

* `Node.endpoints`: the endpoints of a node.
-/

namespace Concordance

/-- The identifier of a node. -/
abbrev NodeId := String

/-- What is known about the health of a node. -/
inductive NodeState
  | alive
  | suspect
  | dead
  deriving DecidableEq

/-- A node as the membership knows it. -/
structure Node where
  id : NodeId
  addresses : List String
  state : NodeState
  deriving DecidableEq

namespace Node

/-- A node that has just been heard of. -/
def new (id : NodeId) (addresses : List String) : Node := ⟨id, addresses, .alive⟩

/-- Whether the node is alive. -/
def isAlive (n : Node) : Bool := n.state == .alive

/-- The endpoints of a node, in the order of its addresses, each of them once. -/
def endpoints (n : Node) (port : UInt16) : List Endpoint :=
  (n.addresses.map fun host => Endpoint.mk host port).eraseDups

end Node

end Concordance
