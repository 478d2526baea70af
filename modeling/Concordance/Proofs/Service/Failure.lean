import Concordance.Proofs.Cluster.Membership
import Concordance.Proofs.Service.Step

/-!
# When work cannot be routed

A routing fails for one of two reasons: no member is alive, or the live nodes that hold the
key advertise no address. Each endpoint of a holder is found again when its nodes are looked
for, so no endpoint is ever left over in the error.

* `Routing.choose_of_unserved`, `Routing.exists_choose`: when there is a choice.
* `Coordinator.Ending`, `Coordinator.ending_route`: the three ways in which a routing ends.
* `ClusterService.route_fails_iff`: exactly when a routing fails, and how a request for one is
  answered.
-/

namespace Concordance

theorem Node.endpoints_eq_nil_iff {n : Node} {port : UInt16} :
    n.endpoints port = [] ↔ n.addresses = [] := by
  rw [Node.endpoints, List.eq_nil_iff_forall_not_mem]
  simp only [List.mem_eraseDups]
  rw [← List.eq_nil_iff_forall_not_mem, List.map_eq_nil_iff]

namespace Routing

variable {nodes : List Node} {load : LoadTable} {eligible : SortedSet Endpoint} {port : UInt16}

/-- Where no node serves an eligible endpoint there is no choice, and the error lists what is
eligible. -/
theorem choose_of_unserved (some : nodes ≠ [])
    (unserved : ∀ n ∈ nodes, ∀ e, ¬ Serves eligible port n e) :
    choose nodes load eligible port = .error (.noEligibleNode eligible.toList) := by
  have candidates : nodes.filterMap (candidate? load eligible port) = [] :=
    List.filterMap_eq_nil_iff.mpr fun n hn => candidate?_eq_none_iff.mpr (unserved n hn)
  have nonempty : ¬ nodes.isEmpty = true := fun empty => some (List.isEmpty_iff.mp empty)
  rw [choose, if_neg nonempty, candidates]
  rfl

/-- Where a node serves an eligible endpoint there is a choice. -/
theorem exists_choose {n : Node} {e : Endpoint} (hn : n ∈ nodes)
    (serves : Serves eligible port n e) : ∃ r, choose nodes load eligible port = .ok r := by
  cases chosen : choose nodes load eligible port with
  | ok r => exact ⟨r, rfl⟩
  | error err => exact absurd serves (choose_eq_error chosen n hn e)

end Routing

namespace Coordinator

variable {c : Coordinator} {key : String}

/-- No member is alive. -/
def Down (c : Coordinator) : Prop := ∀ n ∈ c.membership.members, n.state ≠ .alive

/-- The live nodes that hold the key advertise no address. -/
def Silent (c : Coordinator) (key : String) : Prop := ∀ n ∈ c.holders key, n.addresses = []

theorem aliveMembers_eq_nil_iff : c.membership.aliveMembers = [] ↔ c.Down := by
  rw [List.eq_nil_iff_forall_not_mem]
  simp only [Membership.mem_aliveMembers, not_and]
  rfl

/-- No endpoint can serve a key exactly if its holders are silent. -/
theorem eligible_eq_nil_iff : (c.eligible key).toList = [] ↔ c.Silent key := by
  constructor
  · intro none n holder
    have unserved : n.endpoints c.port = [] ↔ n.addresses = [] := Node.endpoints_eq_nil_iff
    rw [← unserved, List.eq_nil_iff_forall_not_mem]
    intro e served
    have found : e ∈ (c.eligible key).toList := (c.mem_eligible key).mpr ⟨n, holder, served⟩
    rw [none] at found
    exact List.not_mem_nil found
  · intro silent
    refine List.eq_nil_iff_forall_not_mem.mpr fun e found => ?_
    obtain ⟨n, holder, served⟩ := (c.mem_eligible key).mp found
    rw [Node.endpoints_eq_nil_iff.mpr (silent n holder)] at served
    exact List.not_mem_nil served

/-- A holder that is not silent serves an endpoint that can serve the key. -/
theorem exists_serves_of_not_silent (some : ¬ c.Silent key) :
    ∃ n ∈ c.membership.aliveMembers, ∃ e, Routing.Serves (c.eligible key) c.port n e := by
  obtain ⟨e, eligible⟩ := List.exists_mem_of_ne_nil _ (mt eligible_eq_nil_iff.mp some)
  obtain ⟨n, alive, serves⟩ := c.exists_serves key eligible
  exact ⟨n, alive, e, serves⟩

/-- The three ways in which a routing ends. -/
inductive Ending (c : Coordinator) (key : String) : Except RoutingError Route × Coordinator → Prop
  | empty (down : c.Down) : Ending c key (.error .emptyCluster, c)
  | unserved (up : ¬ c.Down) (silent : c.Silent key) :
      Ending c key (.error (.noEligibleNode []), c)
  | routed (up : ¬ c.Down) (heard : ¬ c.Silent key) (r : Route) :
      Ending c key (.ok r, c.charge r.endpoint)

theorem ending_route (c : Coordinator) (key : String) : Ending c key (route key c) := by
  unfold route
  by_cases down : c.Down
  · rw [aliveMembers_eq_nil_iff.mpr down]
    exact .empty down
  have some := mt aliveMembers_eq_nil_iff.mp down
  by_cases silent : c.Silent key
  · have eligible := eligible_eq_nil_iff.mpr silent
    have unserved : ∀ n ∈ c.membership.aliveMembers, ∀ e,
        ¬ Routing.Serves (c.eligible key) c.port n e := by
      intro n _ e serves
      have found : e ∈ (c.eligible key).toList := serves.2
      rw [eligible] at found
      exact List.not_mem_nil found
    rw [Routing.choose_of_unserved some unserved, eligible]
    exact .unserved down silent
  · obtain ⟨n, alive, e, serves⟩ := exists_serves_of_not_silent silent
    obtain ⟨r, chosen⟩ : ∃ r, Routing.choose c.membership.aliveMembers c.load (c.eligible key)
        c.port = .ok r := Routing.exists_choose alive serves
    rw [chosen]
    exact .routed down silent r

section

variable {outcome : Except RoutingError Route} {c' : Coordinator}

theorem Ending.empty_iff (h : Ending c key (outcome, c')) :
    outcome = .error .emptyCluster ↔ c.Down := by
  cases h with
  | empty down => exact iff_of_true rfl down
  | unserved up silent => exact iff_of_false nofun up
  | routed up heard r => exact iff_of_false nofun up

theorem Ending.unserved_iff (h : Ending c key (outcome, c')) (eligible : List Endpoint) :
    outcome = .error (.noEligibleNode eligible) ↔ ¬ c.Down ∧ c.Silent key ∧ eligible = [] := by
  cases h with
  | empty down => exact iff_of_false nofun fun other => other.1 down
  | unserved up silent =>
    constructor
    · rintro ⟨⟩
      exact ⟨up, silent, rfl⟩
    · rintro ⟨-, -, rfl⟩
      rfl
  | routed up heard r => exact iff_of_false nofun fun other => heard other.2.1

theorem Ending.routed_iff (h : Ending c key (outcome, c')) :
    (∃ r, outcome = .ok r) ↔ ¬ c.Down ∧ ¬ c.Silent key := by
  cases h with
  | empty down => exact iff_of_false nofun fun other => other.1 down
  | unserved up silent => exact iff_of_false nofun fun other => other.2 silent
  | routed up heard r => exact iff_of_true ⟨r, rfl⟩ ⟨up, heard⟩

end

end Coordinator

namespace ClusterService

variable {c : Coordinator} {key : String}

/-- The answer to a request that could be routed: everything about the route, and no error. -/
structure Served (reply : Reply RouteResponse) (r : Route) : Prop where
  status : reply.status.code = 200
  node : reply.body.node = some r.node
  endpoint : reply.body.endpoint = some r.endpoint
  load : reply.body.load = some r.load
  error : reply.body.error = none

/-- The answer to a request that could not be routed: the wording of an error, and nothing
else. -/
structure Unserved (reply : Reply RouteResponse) (err : RoutingError) : Prop where
  status : reply.status.code = 503
  node : reply.body.node = none
  endpoint : reply.body.endpoint = none
  load : reply.body.load = none
  error : reply.body.error = some err.message

theorem served_of_ok {r : Route} (routed : (Coordinator.route key c).1 = .ok r) :
    Served (route ⟨key⟩ c).1 r := by
  rw [route_eq, routed]
  exact ⟨rfl, rfl, rfl, rfl, rfl⟩

theorem unserved_of_error {err : RoutingError} (failed : (Coordinator.route key c).1 = .error err) :
    Unserved (route ⟨key⟩ c).1 err := by
  rw [route_eq, failed]
  exact ⟨rfl, rfl, rfl, rfl, rfl⟩

/-- Every answer carries the key and its partition. -/
theorem route_key_partition (c : Coordinator) (key : String) :
    (route ⟨key⟩ c).1.body.key = key ∧
      (route ⟨key⟩ c).1.body.partition = c.placement.partitionOf key := by
  rw [route_eq]
  cases (Coordinator.route key c).1 with
  | ok r => exact ⟨rfl, rfl⟩
  | error err => exact ⟨rfl, rfl⟩

/-- The status tells whether the routing failed. -/
theorem status_route (c : Coordinator) (key : String) :
    ((route ⟨key⟩ c).1.status.code = 503 ↔ ∃ err, (Coordinator.route key c).1 = .error err) ∧
      ((route ⟨key⟩ c).1.status.code = 200 ↔ ∃ r, (Coordinator.route key c).1 = .ok r) := by
  cases outcome : (Coordinator.route key c).1 with
  | ok r =>
    rw [(served_of_ok outcome).status]
    exact ⟨iff_of_false (by decide) nofun, iff_of_true rfl ⟨r, rfl⟩⟩
  | error err =>
    rw [(unserved_of_error outcome).status]
    exact ⟨iff_of_true rfl ⟨err, rfl⟩, iff_of_false (by decide) nofun⟩

/-- A routing fails because no member is alive, or because the holders of the key are silent,
and then no endpoint is eligible; otherwise it succeeds. A request for a route is answered
accordingly. -/
theorem route_fails_iff (c : Coordinator) (key : String) :
    let outcome := (Coordinator.route key c).1
    let reply := (route ⟨key⟩ c).1
    (outcome = .error .emptyCluster ↔ c.Down) ∧
      (∀ eligible, outcome = .error (.noEligibleNode eligible) ↔
        ¬ c.Down ∧ c.Silent key ∧ eligible = []) ∧
      ((∃ r, outcome = .ok r) ↔ ¬ c.Down ∧ ¬ c.Silent key) ∧
      (reply.status.code = 503 ↔ ∃ err, outcome = .error err) ∧
      (∀ err, outcome = .error err → Unserved reply err) ∧
      (reply.status.code = 200 ↔ ∃ r, outcome = .ok r) ∧
      (∀ r, outcome = .ok r → Served reply r) ∧
      reply.body.key = key ∧ reply.body.partition = c.placement.partitionOf key ∧
      reply.body.partition < c.placement.partitions := by
  intro outcome reply
  have ending : Coordinator.Ending c key (outcome, (Coordinator.route key c).2) :=
    Coordinator.ending_route c key
  obtain ⟨unavailable, ok⟩ := status_route c key
  obtain ⟨carried, partition⟩ := route_key_partition c key
  have bound := c.placement.partitionOf_lt key
  rw [← partition] at bound
  exact ⟨ending.empty_iff, ending.unserved_iff, ending.routed_iff, unavailable,
    fun err => unserved_of_error, ok, fun r => served_of_ok, carried, partition, bound⟩

end ClusterService

end Concordance
