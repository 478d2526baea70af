import Concordance.Cluster.Membership
import Concordance.Proofs.Sorted.Map

/-!
# Memberships that can be reached

A membership starts with the local node and changes as nodes join and change their
state.

* `Membership.Reachable`: what such changes can lead to.
* `Membership.Reachable.id_eq`: every record stands under its own identifier.
* `Membership.Reachable.mem_members_iff`: the members are the records that are found.
* `Membership.Reachable.pairwise_aliveMembers`: the live members are in strictly
  ascending order of their identifiers, so no two of them share one.
* `Membership.Reachable.aliveMembers_eq`: which records are alive determines their list.
-/

namespace Concordance.Membership

open Std

/-- The memberships that joins and changes of state can lead to. -/
inductive Reachable : Membership → Prop
  | new (localNode : Node) : Reachable (new localNode)
  | join {m : Membership} (h : Reachable m) (n : Node) : Reachable (m.join n)
  | setState {m : Membership} (h : Reachable m) (id : NodeId) (state : NodeState) :
      Reachable (m.setState id state).2

/-- The peers of a membership have joined it. -/
theorem Reachable.withPeers (localNode : Node) (peers : List Node) :
    Reachable (withPeers localNode peers) := by
  have joined (m : Membership) (h : Reachable m) : Reachable (peers.foldl Membership.join m) := by
    induction peers generalizing m with
    | nil => exact h
    | cons n rest ih => exact ih _ (h.join n)
  exact joined _ (.new localNode)

/-- Every record stands under its own identifier. -/
theorem Reachable.id_eq {m : Membership} (h : m.Reachable) {id : NodeId} {n : Node}
    (found : m.get? id = some n) : n.id = id := by
  have joined {m : Membership} {new n : Node} {id : NodeId}
      (ih : ∀ {id n}, m.get? id = some n → n.id = id)
      (found : (m.join new).get? id = some n) : n.id = id := by
    by_cases same : id = new.id
    · subst same
      obtain rfl : new = n := by simpa using found
      rfl
    · exact ih (by rwa [get?_join_of_ne _ same] at found)
  induction h generalizing id n with
  | new localNode => exact joined (fun none => by cases none) found
  | join h new ih => exact joined ih found
  | setState h id' state ih =>
    by_cases same : id = id'
    · subst same
      rw [get?_setState_self] at found
      obtain ⟨old, known, rfl⟩ := Option.map_eq_some_iff.mp found
      show old.id = id
      exact ih known
    · exact ih (by rwa [get?_setState_of_ne _ same] at found)

theorem mem_members {m : Membership} {n : Node} : n ∈ m.members ↔ ∃ id, m.get? id = some n := by
  have value : n ∈ m.members ↔ ∃ e ∈ m.table.entries, e.2 = n := List.mem_map
  rw [value]
  constructor
  · rintro ⟨e, entry, rfl⟩
    exact ⟨e.1, SortedMap.mem_entries_iff.mp entry⟩
  · rintro ⟨id, found⟩
    exact ⟨(id, n), SortedMap.mem_entries_iff.mpr found, rfl⟩

/-- The members are the records that are found under their identifiers. -/
theorem Reachable.mem_members_iff {m : Membership} (h : m.Reachable) {n : Node} :
    n ∈ m.members ↔ m.get? n.id = some n := by
  rw [mem_members]
  constructor
  · rintro ⟨id, found⟩
    rw [h.id_eq found]
    exact found
  · exact fun found => ⟨n.id, found⟩

theorem mem_aliveMembers {m : Membership} {n : Node} :
    n ∈ m.aliveMembers ↔ n ∈ m.members ∧ n.state = .alive := by
  rw [aliveMembers, List.mem_filter, Node.isAlive, beq_iff_eq]

/-- The members are in strictly ascending order of their identifiers. -/
theorem Reachable.pairwise_members {m : Membership} (h : m.Reachable) :
    m.members.Pairwise fun a b => a.id < b.id := by
  have own : ∀ e ∈ m.table.entries, e.2.id = e.1 :=
    fun e he => h.id_eq (SortedMap.mem_entries_iff.mp he)
  refine List.pairwise_map.mpr (m.table.ascending.imp_of_mem fun {a b} ha hb lt => ?_)
  rw [own a ha, own b hb]
  exact compareOfLessAndEq_eq_lt.mp lt

/-- The live members are in strictly ascending order of their identifiers. -/
theorem Reachable.pairwise_aliveMembers {m : Membership} (h : m.Reachable) :
    m.aliveMembers.Pairwise fun a b => a.id < b.id :=
  h.pairwise_members.filter _

/-- In strictly ascending order of identifiers, the nodes determine the list of them. -/
theorem eq_of_pairwise_id {l l' : List Node} (h : l.Pairwise fun a b => a.id < b.id)
    (h' : l'.Pairwise fun a b => a.id < b.id) (same : ∀ n, n ∈ l ↔ n ∈ l') : l = l' := by
  have irrefl : Std.Irrefl fun a b : Node => a.id < b.id := ⟨fun _ => String.lt_irrefl _⟩
  have antisymm : Std.Antisymm fun a b : Node => a.id < b.id :=
    ⟨fun _ _ lt gt => absurd gt (String.lt_asymm lt)⟩
  exact h.eq_of_mem_iff h' same

/-- Which records are alive determines the list of them. -/
theorem Reachable.aliveMembers_eq {m m' : Membership} (h : m.Reachable) (h' : m'.Reachable)
    (same : ∀ n, n ∈ m.aliveMembers ↔ n ∈ m'.aliveMembers) : m.aliveMembers = m'.aliveMembers :=
  eq_of_pairwise_id h.pairwise_aliveMembers h'.pairwise_aliveMembers same

/-! ## Changes that keep the live members -/

/-- No live record stands under the identifier. -/
def Idle (m : Membership) (id : NodeId) : Prop := ∀ n, m.get? id = some n → n.state ≠ .alive

/-- If only records that are not alive differ, the live members are the same. -/
theorem Reachable.mem_aliveMembers_iff_of_idle {m m' : Membership} (h : m.Reachable)
    (h' : m'.Reachable) {id : NodeId} (idle : m.Idle id) (idle' : m'.Idle id)
    (others : ∀ id', id' ≠ id → m'.get? id' = m.get? id') (n : Node) :
    n ∈ m.aliveMembers ↔ n ∈ m'.aliveMembers := by
  rw [mem_aliveMembers, mem_aliveMembers, h.mem_members_iff, h'.mem_members_iff]
  by_cases same : n.id = id
  · rw [same]
    exact iff_of_false (fun found => idle n found.1 found.2) fun found => idle' n found.1 found.2
  · rw [others n.id same]

/-- A node that is not alive may join where no live one stands. -/
theorem Reachable.mem_aliveMembers_join_iff {m : Membership} (h : m.Reachable) {new : Node}
    (down : new.state ≠ .alive) (idle : m.Idle new.id) (n : Node) :
    n ∈ m.aliveMembers ↔ n ∈ (m.join new).aliveMembers := by
  refine h.mem_aliveMembers_iff_of_idle (h.join new) idle (fun n found => ?_)
    (fun _ ne => get?_join_of_ne _ ne) n
  rw [get?_join_self] at found
  rw [← Option.some.inj found]
  exact down

/-- A node that is not alive may get another such state. -/
theorem Reachable.mem_aliveMembers_setState_iff {m : Membership} (h : m.Reachable) {id : NodeId}
    {state : NodeState} (down : state ≠ .alive) (idle : m.Idle id) (n : Node) :
    n ∈ m.aliveMembers ↔ n ∈ (m.setState id state).2.aliveMembers := by
  refine h.mem_aliveMembers_iff_of_idle (h.setState id state) idle (fun n found => ?_)
    (fun _ ne => get?_setState_of_ne _ ne state) n
  rw [get?_setState_self] at found
  obtain ⟨old, -, rfl⟩ := Option.map_eq_some_iff.mp found
  exact down

/-! ## Joins in another order -/

/-- Nodes with different identifiers may join in either order. -/
theorem join_comm (m : Membership) {a b : Node} (ne : a.id ≠ b.id) :
    (m.join a).join b = (m.join b).join a := by
  have table : ((m.join a).join b).table = ((m.join b).join a).table := by
    refine SortedMap.ext_get? fun id => ?_
    show ((m.join a).join b).get? id = ((m.join b).join a).get? id
    by_cases isA : id = a.id
    · subst isA
      rw [get?_join_of_ne _ ne, get?_join_self, get?_join_self]
    · rw [get?_join_of_ne (m.join b) isA]
      by_cases isB : id = b.id
      · subst isB
        rw [get?_join_self, get?_join_self]
      · rw [get?_join_of_ne _ isB, get?_join_of_ne _ isA, get?_join_of_ne _ isB]
  exact congrArg (Membership.mk m.localNode) table

/-- Nodes with different identifiers may join in any order. -/
theorem foldl_join_eq_of_perm {nodes nodes' : List Node} (perm : nodes.Perm nodes')
    (distinct : nodes.Pairwise fun a b => a.id ≠ b.id) (m : Membership) :
    nodes.foldl join m = nodes'.foldl join m := by
  induction perm generalizing m with
  | nil => rfl
  | cons n _ ih => exact ih (List.pairwise_cons.mp distinct).2 (m.join n)
  | swap a b rest =>
    have ne : b.id ≠ a.id := (List.pairwise_cons.mp distinct).1 a List.mem_cons_self
    simp only [List.foldl_cons]
    rw [join_comm m ne]
  | trans first _ ih ih' =>
    exact (ih distinct m).trans
      (ih' (first.pairwise distinct fun ne => Ne.symm ne) m)

end Concordance.Membership
