import Mathlib
import Concordance.Proofs.Cluster.Choice
import Concordance.Proofs.Cluster.Membership

/-!
# Whether work goes to a holder of its key

Placement hands the endpoints of the holders on, and routing looks for a node that
serves one of them among all live nodes. Where several nodes advertise one host, as
all do that advertise the address that stands for every interface, the two need not
meet: a node that holds nothing may serve the endpoint of one that does.

* `Coordinator.route_node_mem_holders_iff`: exactly when work goes to a holder.
* `Coordinator.route_node_mem_holders_of_apart`: it always does if no two live nodes
  share an endpoint.
* `Coordinator.route_node_notMem_holders`: it does not always.
-/

namespace Concordance.Coordinator

variable {c : Coordinator} {key : String} {r : Route}

/-- The node `n` serves one of the least loaded endpoints that can serve the key. -/
def ServesLeast (c : Coordinator) (key : String) (n : Node) : Prop :=
  ∃ e, Routing.Serves (c.eligible key) c.port n e ∧
    ∀ e' ∈ c.eligible key, c.load.get e ≤ c.load.get e'

theorem servesLeast_of_isLeast
    (h : Routing.IsLeast c.membership.aliveMembers c.load (c.eligible key) c.port r) :
    c.ServesLeast key r.node := by
  refine ⟨r.endpoint, h.serves, fun e he => ?_⟩
  rw [← h.load_eq]
  exact le_load_of_isLeast h he

/-- Of the live nodes that serve a least loaded endpoint, the chosen one comes first. -/
theorem eq_or_lt_of_servesLeast (reached : c.membership.Reachable)
    (h : Routing.IsLeast c.membership.aliveMembers c.load (c.eligible key) c.port r) {n : Node}
    (alive : n ∈ c.membership.aliveMembers) (least : c.ServesLeast key n) :
    n = r.node ∨ r.node.id < n.id := by
  obtain ⟨before, after, split, lower⟩ := h.firstNode
  obtain ⟨e, serves, le⟩ := least
  have asc := reached.pairwise_aliveMembers
  rw [split] at alive asc
  rcases List.mem_append.mp alive with early | late
  · -- Before the chosen node every eligible endpoint has a greater load.
    have lt := lower n early e serves
    rw [h.load_eq] at lt
    exact absurd (UInt64.lt_of_lt_of_le lt (le _ h.serves.2)) (UInt64.lt_irrefl _)
  · rcases List.mem_cons.mp late with same | late
    · exact .inl same
    · have rest := (List.pairwise_append.mp asc).2.1
      exact .inr ((List.pairwise_cons.mp rest).1 n late)

/-- Work on a key goes to a holder of the key exactly if each other live node that serves
a least loaded endpoint of the holders comes after a holder that serves one. -/
theorem route_node_mem_holders_iff (reached : c.membership.Reachable)
    (routed : (route key c).1 = .ok r) :
    r.node ∈ c.holders key ↔
      ∀ n ∈ c.membership.aliveMembers, n ∉ c.holders key → c.ServesLeast key n →
        ∃ m ∈ c.holders key, c.ServesLeast key m ∧ m.id < n.id := by
  have least := isLeast_of_route routed
  have own := servesLeast_of_isLeast least
  constructor
  · intro holder n alive outside serves
    rcases eq_or_lt_of_servesLeast reached least alive serves with rfl | lt
    · exact absurd holder outside
    · exact ⟨r.node, holder, own, lt⟩
  · intro covered
    refine Decidable.byContradiction fun outside => ?_
    obtain ⟨m, holder, serves, lt⟩ := covered r.node least.node_mem outside own
    have alive := c.mem_aliveMembers_of_mem_holders key holder
    rcases eq_or_lt_of_servesLeast reached least alive serves with rfl | gt
    · exact outside holder
    · exact String.lt_asymm lt gt

/-- Work on a key goes to a holder of the key if no two live nodes share an endpoint. -/
theorem route_node_mem_holders_of_apart (routed : (route key c).1 = .ok r)
    (apart : ∀ m ∈ c.membership.aliveMembers, ∀ n ∈ c.membership.aliveMembers,
      ∀ e ∈ m.endpoints c.port, e ∈ n.endpoints c.port → m = n) :
    r.node ∈ c.holders key := by
  have least := isLeast_of_route routed
  obtain ⟨m, holder, serves⟩ := (c.mem_eligible key).mp least.serves.2
  have alive := c.mem_aliveMembers_of_mem_holders key holder
  rw [← apart m alive r.node least.node_mem r.endpoint serves least.serves.1]
  exact holder

/-! ## Nodes that share a host -/

/-- Two nodes that advertise every interface of their machines, and two partitions of
which each is held by one of them. -/
def wildcards : Coordinator where
  placement := .new 2 1
  port := 8100
  membership := (Membership.new (.new "a" ["0.0.0.0"])).join (.new "b" ["0.0.0.0"])
  load := ∅

theorem reachable_wildcards : wildcards.membership.Reachable := .join (.new _) _

/-- What a routing answers that goes to the first of the two nodes. -/
def toFirst : Route := ⟨.new "a" ["0.0.0.0"], ⟨"0.0.0.0", 8100⟩, 0⟩

/-- The first node gets the work on a key that the second one holds. -/
theorem route_node_notMem_holders : wildcards.membership.Reachable ∧
    (route "k1" wildcards).1 = .ok toFirst ∧ toFirst.node ∉ wildcards.holders "k1" := by
  have held : wildcards.holders "k1" = [.new "b" ["0.0.0.0"]] := by cbv
  refine ⟨reachable_wildcards, by cbv, ?_⟩
  rw [held]
  decide

/-- The first node gets the work on a key that it holds itself. -/
theorem route_node_mem_holders_wildcards : wildcards.membership.Reachable ∧
    (route "k2" wildcards).1 = .ok toFirst ∧
    (toFirst.node ∈ wildcards.holders "k2" ↔
      ∀ n ∈ wildcards.membership.aliveMembers, n ∉ wildcards.holders "k2" →
        wildcards.ServesLeast "k2" n →
        ∃ m ∈ wildcards.holders "k2", wildcards.ServesLeast "k2" m ∧ m.id < n.id) := by
  have routed : (route "k2" wildcards).1 = .ok toFirst := by cbv
  exact ⟨reachable_wildcards, routed, route_node_mem_holders_iff reachable_wildcards routed⟩

end Concordance.Coordinator
