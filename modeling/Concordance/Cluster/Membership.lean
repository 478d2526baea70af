import Concordance.Cluster.Node
import Concordance.Sorted.Map

/-!
# Membership

The members of the cluster, one record for each identifier. A node that joins
replaces the record under its identifier; a change of state changes nothing else.

* `Membership.join`, `Membership.setState`: the two changes.
* `Membership.members`, `Membership.aliveMembers`: the records, by identifier.
* `Membership.get?_join_self`, `Membership.get?_setState_self`: the record that a
  change leaves; the other records stay as they are.
-/

namespace Concordance

/-- The nodes that are known, among them the local one. -/
structure Membership where
  /-- The local node as it was when the table was made. -/
  localNode : Node
  table : SortedMap NodeId Node

namespace Membership

/-- Adds a node, or replaces the one with its identifier. -/
def join (m : Membership) (n : Node) : Membership := { m with table := m.table.insert n.id n }

/-- The membership of the local node alone. -/
def new (localNode : Node) : Membership := join ⟨localNode, ∅⟩ localNode

/-- The membership of the local node and some peers, who join in turn. -/
def withPeers (localNode : Node) (peers : List Node) : Membership := peers.foldl join (new localNode)

/-- The record of a node. -/
def get? (m : Membership) (id : NodeId) : Option Node := m.table.get? id

/-- Changes the state of a node, and says whether the node is known. -/
def setState (m : Membership) (id : NodeId) (state : NodeState) : Bool × Membership :=
  match m.get? id with
  | some n => (true, { m with table := m.table.insert id { n with state } })
  | none => (false, m)

/-- The number of members. -/
def size (m : Membership) : Nat := m.table.size

/-- Whether there is no member. -/
def isEmpty (m : Membership) : Bool := m.table.isEmpty

/-- Every member, by identifier. -/
def members (m : Membership) : List Node := m.table.values

/-- Every member that is alive, by identifier. -/
def aliveMembers (m : Membership) : List Node := m.members.filter Node.isAlive

@[simp] theorem get?_join_self (m : Membership) (n : Node) : (m.join n).get? n.id = some n := by
  simp [join, get?]

theorem get?_join_of_ne (m : Membership) {n : Node} {id : NodeId} (h : id ≠ n.id) :
    (m.join n).get? id = m.get? id := by
  simp [join, get?, SortedMap.get?_insert_of_ne _ h]

/-- A change of state says whether there was something to change. -/
theorem setState_fst (m : Membership) (id : NodeId) (state : NodeState) :
    (m.setState id state).1 = (m.get? id).isSome := by
  unfold setState
  split <;> simp_all

theorem get?_setState_self (m : Membership) (id : NodeId) (state : NodeState) :
    (m.setState id state).2.get? id = (m.get? id).map fun n => { n with state } := by
  unfold setState
  split <;> simp_all [get?]

theorem get?_setState_of_ne (m : Membership) {id id' : NodeId} (h : id' ≠ id)
    (state : NodeState) : (m.setState id state).2.get? id' = m.get? id' := by
  unfold setState
  split
  · simp [get?, SortedMap.get?_insert_of_ne _ h]
  · rfl

end Membership

end Concordance
