import Mathlib
import Concordance.Proofs.Cluster.Membership
import Concordance.Proofs.Service.Step

/-!
# Routing sees live members only

The members that are suspect or dead leave no trace in a routing, and neither does the way in
which the live ones came to be members. Two coordinators with the same live members, the same
load and the same placement answer alike, and go on doing so: what one routing does to the
load of the one it does to the load of the other.

* `Alike`: coordinators that differ in nothing but members that are not alive.
* `Alike.perform`, `Alike.run`: a command keeps them alike and answers alike, and so does a
  history.
* `Membership.indistinguishable_of_same_alive`: which memberships no routing can tell apart.
-/

namespace Concordance

/-- The command changes no member and asks about none, unless about those that are alive. -/
def Command.SeesAlive : Command → Prop
  | .join _ | .setState _ _ | .getMember _ | .members | .localNode | .requestNodes => False
  | _ => True

/-- The coordinators differ in nothing but members that are not alive. -/
structure Alike (c c' : Coordinator) : Prop where
  placement : c.placement = c'.placement
  port : c.port = c'.port
  load : c.load = c'.load
  alive : c.membership.aliveMembers = c'.membership.aliveMembers

namespace Alike

variable {c c' : Coordinator}

/-! ## One command -/

theorem eligible (h : Alike c c') (key : String) : c.eligible key = c'.eligible key := by
  unfold Coordinator.eligible
  rw [h.placement, h.port, h.alive]

theorem charge (h : Alike c c') (e : Endpoint) : Alike (c.charge e) (c'.charge e) := by
  refine ⟨h.placement, h.port, ?_, h.alive⟩
  show (c.load.record e).2 = (c'.load.record e).2
  rw [h.load]

/-- They route a key alike. -/
theorem route (h : Alike c c') (key : String) :
    (Coordinator.route key c).1 = (Coordinator.route key c').1 ∧
      Alike (Coordinator.route key c).2 (Coordinator.route key c').2 := by
  have choice : Routing.choose c.membership.aliveMembers c.load (c.eligible key) c.port =
      Routing.choose c'.membership.aliveMembers c'.load (c'.eligible key) c'.port := by
    rw [h.alive, h.load, h.eligible, h.port]
  unfold Coordinator.route
  rw [choice]
  cases Routing.choose c'.membership.aliveMembers c'.load (c'.eligible key) c'.port with
  | ok r => exact ⟨rfl, h.charge r.endpoint⟩
  | error err => exact ⟨rfl, h⟩

/-- They answer a command alike, and stay alike. -/
theorem perform (h : Alike c c') {command : Command} (sees : command.SeesAlive) :
    (command.perform c).1 = (command.perform c').1 ∧
      Alike (command.perform c).2 (command.perform c').2 := by
  have routed (key : String) := h.route key
  cases command with
  | join | setState | getMember | members | localNode | requestNodes => exact sees.elim
  | route key => exact ⟨congrArg Answer.routed (routed key).1, (routed key).2⟩
  | dispatch document =>
    have document := routed (Coordinator.documentKey document)
    exact ⟨congrArg Answer.routed document.1, document.2⟩
  | requestRoute request =>
    obtain ⟨outcome, next⟩ := routed request.key
    rw [Command.perform_requestRoute, Command.perform_requestRoute, ClusterService.route_eq,
      ClusterService.route_eq, outcome, h.placement]
    exact ⟨rfl, next⟩
  | record e =>
    refine ⟨?_, h.charge e⟩
    show Answer.count (c.load.record e).1 = Answer.count (c'.load.record e).1
    rw [h.load]
  | alive => exact ⟨congrArg Answer.nodes h.alive, h⟩
  | partition key =>
    refine ⟨?_, h⟩
    show Answer.partition (c.placement.partitionOf key) = .partition (c'.placement.partitionOf key)
    rw [h.placement]
  | snapshot => exact ⟨congrArg (fun load : LoadTable => Answer.counters load.snapshot) h.load, h⟩
  | requestLoad text =>
    refine ⟨?_, h⟩
    show Answer.loadReply (ClusterService.load c text) = .loadReply (ClusterService.load c' text)
    unfold ClusterService.load
    rw [h.load]
  | requestSnapshot =>
    refine ⟨?_, h⟩
    show Answer.snapshotReply (ClusterService.snapshot c) = .snapshotReply (ClusterService.snapshot c')
    unfold ClusterService.snapshot
    rw [h.load]

/-! ## Histories -/

/-- They answer a history alike, and stay alike. -/
theorem run (h : Alike c c') {commands : List Command}
    (sees : ∀ command ∈ commands, command.SeesAlive) :
    (Command.run commands c).1 = (Command.run commands c').1 ∧
      Alike (Command.run commands c).2 (Command.run commands c').2 := by
  induction commands generalizing c c' with
  | nil => exact ⟨rfl, h⟩
  | cons command rest ih =>
    obtain ⟨now, others⟩ := List.forall_mem_cons.mp sees
    obtain ⟨answer, next⟩ := h.perform now
    obtain ⟨answers, last⟩ := ih next others
    rw [Command.run_cons, Command.run_cons, answer, answers]
    exact ⟨rfl, last⟩

end Alike

namespace Membership

variable {m m' : Membership}

/-- Whatever the placement, the port and the load are, no history of routings and records, or
of other commands that see live members only, tells the two memberships apart: the answers
and the load in the end are the same. -/
def Indistinguishable (m m' : Membership) : Prop :=
  ∀ (placement : Placement) (port : UInt16) (load : LoadTable) (commands : List Command),
    (∀ command ∈ commands, command.SeesAlive) →
      let left := Command.run commands ⟨placement, port, m, load⟩
      let right := Command.run commands ⟨placement, port, m', load⟩
      left.1 = right.1 ∧ left.2.load = right.2.load

theorem indistinguishable_of_aliveMembers_eq (h : m.aliveMembers = m'.aliveMembers) :
    Indistinguishable m m' := by
  intro placement port load commands sees
  have alike : Alike ⟨placement, port, m, load⟩ ⟨placement, port, m', load⟩ := ⟨rfl, rfl, rfl, h⟩
  obtain ⟨answers, last⟩ := alike.run sees
  exact ⟨answers, last.load⟩

/-- No routing tells apart two memberships in which the same records are alive. So it does not
matter in which order nodes join, or whether nodes that are not alive join, are suspected or
are given up. -/
theorem indistinguishable_of_same_alive (reached : m.Reachable) :
    (∀ m', m'.Reachable → (∀ n, n ∈ m.aliveMembers ↔ n ∈ m'.aliveMembers) →
        Indistinguishable m m') ∧
      (∀ nodes nodes' : List Node, nodes.Perm nodes' → nodes.Pairwise (fun a b => a.id ≠ b.id) →
        Indistinguishable (nodes.foldl join m) (nodes'.foldl join m)) ∧
      (∀ n : Node, n.state ≠ .alive → m.Idle n.id → Indistinguishable m (m.join n)) ∧
      ∀ (id : NodeId) (state : NodeState), state ≠ .alive → m.Idle id →
        Indistinguishable m (m.setState id state).2 := by
  have alike {m' : Membership} (h' : m'.Reachable)
      (same : ∀ n, n ∈ m.aliveMembers ↔ n ∈ m'.aliveMembers) : Indistinguishable m m' :=
    indistinguishable_of_aliveMembers_eq (reached.aliveMembers_eq h' same)
  refine ⟨fun m' => alike, fun nodes nodes' perm distinct => ?_, fun n down idle => ?_,
    fun id state down idle => ?_⟩
  · rw [foldl_join_eq_of_perm perm distinct]
    exact indistinguishable_of_aliveMembers_eq rfl
  · exact alike (reached.join n) (reached.mem_aliveMembers_join_iff down idle)
  · exact alike (reached.setState id state) (reached.mem_aliveMembers_setState_iff down idle)

/-- Two live nodes, and one that went down. -/
def settled : Membership :=
  (setState (((new (.new "a" ["10.0.0.1"])).join (.new "b" ["10.0.0.2"])).join
    (.new "c" ["10.0.0.3"])) "c" .dead).2

/-- The same live nodes after other events: one of them was suspected and moved. -/
def recovered : Membership :=
  join (setState ((new (.new "b" ["10.0.0.9"])).join (.new "a" ["10.0.0.1"])) "b" .suspect).2
    (.new "b" ["10.0.0.2"])

theorem indistinguishable_of_same_alive_settled : settled.Reachable ∧ recovered.Reachable ∧
    (∀ n, n ∈ settled.aliveMembers ↔ n ∈ recovered.aliveMembers) ∧ settled.Idle "c" ∧
    Indistinguishable settled recovered ∧
    Indistinguishable ([.new "d" ["10.0.0.4"], .new "a" []].foldl join settled)
      ([.new "a" [], .new "d" ["10.0.0.4"]].foldl join settled) ∧
    Indistinguishable settled (settled.join ⟨"c", ["10.0.0.5"], .suspect⟩) ∧
    Indistinguishable settled (settled.setState "c" .suspect).2 := by
  have reached : settled.Reachable := .setState (.join (.join (.new _) _) _) _ _
  have reached' : recovered.Reachable := .join (.setState (.join (.new _) _) _ _) _
  have same : settled.aliveMembers = recovered.aliveMembers := by cbv
  have down : settled.get? "c" = some ⟨"c", ["10.0.0.3"], .dead⟩ := by cbv
  have idle : settled.Idle "c" := by
    intro n found
    rw [down] at found
    rw [← Option.some.inj found]
    decide
  obtain ⟨alive, order, joined, changed⟩ := indistinguishable_of_same_alive reached
  refine ⟨reached, reached', fun n => by rw [same], idle, alive _ reached' fun n => by rw [same],
    order _ _ (.swap _ _ _) ?_, joined _ (by decide) idle, changed "c" .suspect (by decide) idle⟩
  exact List.pairwise_pair.mpr (by decide)

end Membership

end Concordance
