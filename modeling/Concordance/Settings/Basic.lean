import Concordance.Cluster.Placement
import Concordance.Language
import Concordance.Net.Address
import Concordance.Settings.Peer

/-!
# Settings

What a node has to know before it starts: where it listens, how the cluster is laid
out, and which peers there are.

* `Settings.standard`: the settings unless others are given.
* `Settings.localNode`, `Settings.peerNodes`: the nodes that the settings describe.
-/

namespace Concordance

/-- The settings of a node. -/
structure Settings where
  /-- Where the node listens. Its address is also what the node advertises. -/
  bind : Net.SocketAddress
  /-- The port that every node serves documents on. -/
  analyticsPort : UInt16
  defaultLanguage : Language
  numPartitions : UInt32
  replicationFactor : UInt64
  reportIntervalSecs : UInt64
  /-- The identifier of the node; without one it gets a fresh identifier. -/
  nodeId : Option NodeId
  peers : List Peer
  deriving DecidableEq

namespace Settings

/-- The port unless another one is wanted. -/
def defaultPort : UInt16 := 8100

/-- The settings unless others are given. -/
def standard : Settings where
  bind := .v4 ⟨#v[127, 0, 0, 1]⟩ defaultPort
  analyticsPort := defaultPort
  defaultLanguage := .en
  numPartitions := Placement.defaultPartitions
  replicationFactor := Placement.defaultReplication
  reportIntervalSecs := 5
  nodeId := none
  peers := []

/-- The local node, called `fresh` if the settings give it no identifier. -/
def localNode (s : Settings) (fresh : NodeId) : Node :=
  .new (s.nodeId.getD fresh) [s.bind.writeIp]

/-- The nodes that the peers are taken for at first. -/
def peerNodes (s : Settings) : List Node := s.peers.map Peer.node

end Settings

end Concordance
