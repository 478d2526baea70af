import Concordance.Service.Cluster

/-!
# Commands to a coordinator

Everything that can be asked of a coordinator, as one type, so that its history can
be spoken of: a history is a list of commands.

* `Command.perform`: the answer to a command and the state it leaves.
* `Command.run`: the answers to a history and the state it leaves.
-/

namespace Concordance

/-- What can be asked of a coordinator. -/
inductive Command
  | join (node : Node)
  | setState (id : NodeId) (state : NodeState)
  | getMember (id : NodeId)
  | members
  | alive
  | localNode
  | partition (key : String)
  | route (key : String)
  | dispatch (document : UInt64)
  | record (endpoint : Endpoint)
  | snapshot
  /-- A request to route a key. -/
  | requestRoute (request : RouteRequest)
  /-- A request for the load of the endpoint that a text writes. -/
  | requestLoad (text : String)
  | requestSnapshot
  | requestNodes

/-- The answer to a command. -/
inductive Answer
  | joined (size : Nat) (empty : Bool)
  | known (known : Bool)
  | member (node : Option Node)
  | nodes (nodes : List Node)
  | partition (partition : UInt32)
  | routed (outcome : Except RoutingError Route)
  | count (load : UInt64)
  | counters (counters : List (Endpoint × UInt64))
  | routeReply (reply : Reply RouteResponse)
  | loadReply (reply : Reply LoadResponse)
  | snapshotReply (reply : Reply SnapshotResponse)
  | nodesReply (reply : Reply NodesResponse)

namespace Command

/-- Carries a command out. -/
def perform : Command → StateM Coordinator Answer
  | join node => do
    Coordinator.join node
    let c ← get
    return .joined c.membership.size c.membership.isEmpty
  | setState id state => return .known (← Coordinator.setState id state)
  | getMember id => return .member ((← get).membership.get? id)
  | members => return .nodes (← get).membership.members
  | alive => return .nodes (← get).membership.aliveMembers
  | localNode => return .member (some (← get).membership.localNode)
  | partition key => return .partition ((← get).placement.partitionOf key)
  | route key => return .routed (← Coordinator.route key)
  | dispatch document => return .routed (← Coordinator.dispatch document)
  | record endpoint => return .count (← Coordinator.record endpoint)
  | snapshot => return .counters (← get).load.snapshot
  | requestRoute request => return .routeReply (← ClusterService.route request)
  | requestLoad text => return .loadReply (ClusterService.load (← get) text)
  | requestSnapshot => return .snapshotReply (ClusterService.snapshot (← get))
  | requestNodes => return .nodesReply (ClusterService.nodes (← get))

/-- Carries commands out one after the other. -/
def run : List Command → StateM Coordinator (List Answer)
  | [] => return []
  | command :: rest => do
    let answer ← perform command
    let answers ← run rest
    return answer :: answers

end Command

end Concordance
