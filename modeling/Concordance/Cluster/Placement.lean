import Concordance.Cluster.Node
import Concordance.Hash.Sip
import Concordance.Sorted.Set

/-!
# Placement

Every key belongs to a partition, and every partition is held by some of the nodes:
so many as there are to be replicas, one after the other in the order of their
identifiers and round to the first again, starting at the partition's number.

* `Placement.partitionOf`: the partition of a key.
* `Placement.replicas`, `Placement.length_replicas`: the nodes that hold a partition.
* `Placement.eligible`, `Placement.mem_eligible`: the endpoints that can serve a key.
-/

namespace Concordance

/-- How many partitions there are, and how many nodes are to hold each of them. -/
structure Placement where
  partitions : UInt32
  replication : UInt64
  partitions_ne_zero : partitions ≠ 0
  replication_ne_zero : replication ≠ 0

namespace Placement

/-- A placement with at least one partition and at least one replica. -/
def new (partitions : UInt32) (replication : UInt64) : Placement where
  partitions := if partitions = 0 then 1 else partitions
  replication := if replication = 0 then 1 else replication
  partitions_ne_zero := by split <;> simp_all
  replication_ne_zero := by split <;> simp_all

/-- The number of partitions unless another one is wanted. -/
def defaultPartitions : UInt32 := 256

/-- The number of replicas unless another one is wanted. -/
def defaultReplication : UInt64 := 2

/-- The placement with the usual numbers. -/
def standard : Placement := new defaultPartitions defaultReplication

/-- The hash of a key: of its bytes and one more that occurs in no text. -/
def hashOf (key : String) : UInt64 := Hash.Sip.hash 0 0 (key.toUTF8.toList ++ [0xff])

/-- The partition that a key belongs to. -/
def partitionOf (p : Placement) (key : String) : UInt32 := (hashOf key).toUInt32 % p.partitions

/-- The nodes in the order of their identifiers. -/
def ordered (nodes : List Node) : List Node := nodes.mergeSort fun a b => a.id ≤ b.id

/-- The nodes that hold a partition, the primary one first. -/
def replicas (p : Placement) (partition : UInt32) (nodes : List Node) : List Node :=
  let ring := ordered nodes
  let start := partition.toNat % ring.length
  (ring.drop start ++ ring.take start).take p.replication.toNat

theorem partitionOf_lt (p : Placement) (key : String) : p.partitionOf key < p.partitions :=
  UInt32.mod_lt _ (UInt32.pos_iff_ne_zero.mpr p.partitions_ne_zero)

@[simp] theorem length_ordered (nodes : List Node) : (ordered nodes).length = nodes.length :=
  List.length_mergeSort nodes

@[simp] theorem mem_ordered {nodes : List Node} {n : Node} : n ∈ ordered nodes ↔ n ∈ nodes :=
  List.mem_mergeSort

/-- There are as many replicas as wanted, or as nodes if there are fewer. -/
theorem length_replicas (p : Placement) (partition : UInt32) (nodes : List Node) :
    (p.replicas partition nodes).length = min p.replication.toNat nodes.length := by
  simp only [replicas, List.length_take, List.length_append, List.length_drop, length_ordered]
  omega

theorem mem_of_mem_replicas {p : Placement} {partition : UInt32} {nodes : List Node} {n : Node}
    (h : n ∈ p.replicas partition nodes) : n ∈ nodes := by
  rcases List.mem_append.mp (List.mem_of_mem_take h) with h | h
  · exact mem_ordered.mp (List.mem_of_mem_drop h)
  · exact mem_ordered.mp (List.mem_of_mem_take h)

/-- The endpoints of the nodes that hold the partition of a key. -/
def eligible (p : Placement) (key : String) (nodes : List Node) (port : UInt16) :
    SortedSet Endpoint :=
  .ofList ((p.replicas (p.partitionOf key) nodes).flatMap fun n => n.endpoints port)

/-- An endpoint can serve a key exactly when it is one of a node that holds it. -/
theorem mem_eligible {p : Placement} {key : String} {nodes : List Node} {port : UInt16}
    {e : Endpoint} : e ∈ p.eligible key nodes port ↔
      ∃ n ∈ p.replicas (p.partitionOf key) nodes, e ∈ n.endpoints port := by
  simp [eligible]

end Placement

end Concordance
