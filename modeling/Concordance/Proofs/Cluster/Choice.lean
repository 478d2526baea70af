import Concordance.Cluster.Coordinator

/-!
# The chosen route

What `Routing.choose` and `Coordinator.route` do, said once so that no later proof
opens them.

* `Routing.IsLeast`: the route goes through an eligible endpoint of least load, at
  the first node that serves one.
* `Routing.isLeast_of_choose`, `Routing.choose_eq_error`: a choice is such a route,
  and there is no choice only if no node serves an eligible endpoint.
* `Coordinator.route_cases`: a routing charges the endpoint of such a route, or
  changes nothing.
-/

namespace Concordance

namespace Routing

variable {nodes : List Node} {load : LoadTable} {eligible : SortedSet Endpoint} {port : UInt16}

/-- The node `n` serves the eligible endpoint `e`. -/
def Serves (eligible : SortedSet Endpoint) (port : UInt16) (n : Node) (e : Endpoint) : Prop :=
  e ∈ n.endpoints port ∧ e ∈ eligible

/-- The route `r` goes through an eligible endpoint with the least load. Among the nodes
it goes to the first that serves such an endpoint, and there to the first of them. -/
structure IsLeast (nodes : List Node) (load : LoadTable) (eligible : SortedSet Endpoint)
    (port : UInt16) (r : Route) : Prop where
  serves : Serves eligible port r.node r.endpoint
  load_eq : r.load = load.get r.endpoint
  le_load : ∀ n ∈ nodes, ∀ e, Serves eligible port n e → r.load ≤ load.get e
  firstNode : ∃ before after, nodes = before ++ r.node :: after ∧
    ∀ n ∈ before, ∀ e, Serves eligible port n e → r.load < load.get e
  firstEndpoint : ∃ before after, r.node.endpoints port = before ++ r.endpoint :: after ∧
    ∀ e ∈ before, e ∈ eligible → r.load < load.get e

theorem IsLeast.node_mem {r : Route} (h : IsLeast nodes load eligible port r) : r.node ∈ nodes := by
  obtain ⟨before, after, rfl, -⟩ := h.firstNode
  simp

/-! ## One node -/

theorem candidate?_eq_none_iff {n : Node} :
    candidate? load eligible port n = none ↔ ∀ e, ¬ Serves eligible port n e := by
  simp [candidate?, firstLeast_eq_none_iff, Serves, SortedSet.contains_iff]

/-- The candidate of a node is its first eligible endpoint of least load. -/
theorem of_candidate? {n : Node} {r : Route} (h : candidate? load eligible port n = some r) :
    r.node = n ∧ IsLeast [n] load eligible port r := by
  obtain ⟨before, after, split, lower, upper⟩ := split_of_firstLeast h
  obtain ⟨earlier, rest, filtered, rfl, mapped⟩ := List.map_eq_append_iff.mp split
  obtain ⟨e, later, rfl, rfl, rfl⟩ := List.map_eq_cons_iff.mp mapped
  obtain ⟨first, rest, endpoints, rfl, filteredRest⟩ := List.filter_eq_append_iff.mp filtered
  obtain ⟨skipped, last, rfl, notEligible, isEligible, -⟩ := List.filter_eq_cons_iff.mp filteredRest
  have least : ∀ e', Serves eligible port n e' → load.get e ≤ load.get e' := by
    rintro e' ⟨mem, el⟩
    have found := List.mem_map_of_mem (f := fun e => Route.mk n e (load.get e))
      (List.mem_filter.mpr ⟨mem, SortedSet.contains_iff.mpr el⟩)
    have le := le_of_firstLeast h found
    exact UInt64.le_iff_toNat_le.mpr le
  refine ⟨rfl, ⟨⟨by rw [endpoints]; simp, SortedSet.contains_iff.mp isEligible⟩, rfl, ?_, ?_, ?_⟩⟩
  · intro n' hn
    obtain rfl := List.mem_singleton.mp hn
    exact least
  · exact ⟨[], [], rfl, by simp⟩
  · refine ⟨first ++ skipped, last, by rw [endpoints, List.append_assoc], fun e' mem el => ?_⟩
    rw [← SortedSet.contains_iff] at el
    rcases List.mem_append.mp mem with mem | mem
    · have found := List.mem_map_of_mem (f := fun e => Route.mk n e (load.get e))
        (List.mem_filter.mpr ⟨mem, el⟩)
      exact UInt64.lt_iff_toNat_lt.mpr (lower _ found)
    · exact absurd el (notEligible e' mem)

/-! ## All nodes -/

/-- A choice is a route of least load. -/
theorem isLeast_of_choose {r : Route} (h : choose nodes load eligible port = .ok r) :
    IsLeast nodes load eligible port r := by
  unfold choose at h
  split at h
  · cases h
  · cases found : firstLeast (fun r => r.load.toNat)
      (nodes.filterMap (candidate? load eligible port)) with
    | none => simp [found] at h
    | some r' =>
      obtain rfl : r' = r := by simpa [found] using h
      obtain ⟨before, after, split, lower, -⟩ := split_of_firstLeast found
      obtain ⟨first, rest, rfl, rfl, chosen⟩ := List.filterMap_eq_append_iff.mp split
      obtain ⟨skipped, n, last, rfl, unserved, here, -⟩ := List.filterMap_eq_cons_iff.mp chosen
      obtain ⟨rfl, own⟩ := of_candidate? here
      refine ⟨own.serves, own.load_eq, fun n' hn e serves => ?_, ?_, own.firstEndpoint⟩
      · -- The candidate of `n'` is no better than the choice and no worse than `e`.
        cases other : candidate? load eligible port n' with
        | none => exact absurd serves (candidate?_eq_none_iff.mp other e)
        | some r' =>
          have le := le_of_firstLeast found (List.mem_filterMap.mpr ⟨n', hn, other⟩)
          exact UInt64.le_trans (UInt64.le_iff_toNat_le.mpr le)
            ((of_candidate? other).2.le_load n' (by simp) e serves)
      · refine ⟨first ++ skipped, last, by simp, fun n' hn e serves => ?_⟩
        rcases List.mem_append.mp hn with hn | hn
        · cases other : candidate? load eligible port n' with
          | none => exact absurd serves (candidate?_eq_none_iff.mp other e)
          | some r' =>
            have lt := lower _ (List.mem_filterMap.mpr ⟨n', hn, other⟩)
            exact UInt64.lt_of_lt_of_le (UInt64.lt_iff_toNat_lt.mpr lt)
              ((of_candidate? other).2.le_load n' (by simp) e serves)
        · exact absurd serves (candidate?_eq_none_iff.mp (unserved n' hn) e)

/-- There is no choice only where no node serves an eligible endpoint. -/
theorem choose_eq_error {err : RoutingError} (h : choose nodes load eligible port = .error err) :
    ∀ n ∈ nodes, ∀ e, ¬ Serves eligible port n e := by
  intro n hn
  unfold choose at h
  split at h
  · simp_all
  · cases found : firstLeast (fun r => r.load.toNat)
      (nodes.filterMap (candidate? load eligible port)) with
    | none =>
      have none := List.filterMap_eq_nil_iff.mp (firstLeast_eq_none_iff.mp found) n hn
      exact candidate?_eq_none_iff.mp none
    | some r => simp [found] at h

end Routing

namespace Coordinator

variable (c : Coordinator) (key : String)

/-- The nodes that hold the partition of a key now. -/
def holders : List Node :=
  c.placement.replicas (c.placement.partitionOf key) c.membership.aliveMembers

theorem mem_aliveMembers_of_mem_holders {n : Node} (h : n ∈ c.holders key) :
    n ∈ c.membership.aliveMembers :=
  Placement.mem_of_mem_replicas h

theorem mem_eligible {e : Endpoint} :
    e ∈ c.eligible key ↔ ∃ n ∈ c.holders key, e ∈ n.endpoints c.port :=
  Placement.mem_eligible

/-- A live node serves each endpoint that can serve a key. -/
theorem exists_serves {e : Endpoint} (h : e ∈ c.eligible key) :
    ∃ n ∈ c.membership.aliveMembers, Routing.Serves (c.eligible key) c.port n e := by
  obtain ⟨n, hn, he⟩ := (c.mem_eligible key).mp h
  exact ⟨n, c.mem_aliveMembers_of_mem_holders key hn, he, h⟩

/-- Charges an endpoint with one piece of work. -/
def charge (e : Endpoint) : Coordinator := { c with load := (c.load.record e).2 }

/-- What a routing does: it takes a route of least load and charges its endpoint, or it
changes nothing, where no endpoint can serve the key. -/
theorem route_cases :
    (∃ r, route key c = (.ok r, c.charge r.endpoint) ∧
      Routing.IsLeast c.membership.aliveMembers c.load (c.eligible key) c.port r) ∨
    ∃ err, route key c = (.error err, c) ∧ ∀ e, e ∉ c.eligible key := by
  unfold route
  split
  · next r chosen => exact .inl ⟨r, rfl, Routing.isLeast_of_choose chosen⟩
  · next err failed =>
    refine .inr ⟨err, rfl, fun e he => ?_⟩
    obtain ⟨n, hn, serves⟩ := c.exists_serves key he
    exact Routing.choose_eq_error failed n hn e serves

variable {c key}

/-- A routing that succeeds takes a route of least load. -/
theorem isLeast_of_route {r : Route} (routed : (route key c).1 = .ok r) :
    Routing.IsLeast c.membership.aliveMembers c.load (c.eligible key) c.port r := by
  rcases route_cases c key with ⟨r', eq, least⟩ | ⟨err, eq, -⟩
  · rw [eq] at routed
    obtain rfl : r' = r := by simpa using routed
    exact least
  · simp [eq] at routed

/-- A route has the least load of all endpoints that can serve the key. -/
theorem le_load_of_isLeast {r : Route}
    (h : Routing.IsLeast c.membership.aliveMembers c.load (c.eligible key) c.port r)
    {e : Endpoint} (he : e ∈ c.eligible key) : r.load ≤ c.load.get e := by
  obtain ⟨n, hn, serves⟩ := c.exists_serves key he
  exact h.le_load n hn e serves

end Coordinator

end Concordance
