import Mathlib
import Concordance.Proofs.Cluster.Membership
import Concordance.Proofs.Service.Step

/-!
# Safe routing

Nodes join again with other addresses, fail and recover while work is routed. Whatever the
history was, a routing reads the members as they are now: it goes to a member that is alive,
by the record that stands under its identifier, through an endpoint of that member that can
serve the key, and no endpoint that can serve the key has less load.

* `Membership.after`, `Command.membership_perform`: what a command does to the members.
* `Command.reachable_perform`, `Command.reachable_run`: the members stay such as joins and
  changes of state lead to.
* `Command.run_routes_safely`: after every history, every routing is safe.
-/

namespace Concordance

/-! ## The members in a history -/

/-- The members after a command. -/
def Membership.after (m : Membership) : Command → Membership
  | .join node => m.join node
  | .setState id state => (m.setState id state).2
  | _ => m

theorem Membership.Reachable.after {m : Membership} (h : m.Reachable) (command : Command) :
    (m.after command).Reachable := by
  cases command with
  | join node => exact h.join node
  | setState id state => exact h.setState id state
  | _ => exact h

namespace Command

variable {c : Coordinator} {key : String} {r : Route}

/-- A command changes the members only if it is a join or a change of state. -/
theorem membership_perform (command : Command) (c : Coordinator) :
    (perform command c).2.membership = c.membership.after command := by
  cases asked : command.key? with
  | none =>
    cases command with
    | route | dispatch | requestRoute => cases asked
    | _ => rfl
  | some key =>
    have same : c.membership.after command = c.membership := by
      cases command with
      | route | dispatch | requestRoute => rfl
      | _ => cases asked
    rcases perform_of_key (c := c) asked with ⟨r, -, left, -⟩ | ⟨-, left, -⟩
    · rw [left, same]
      rfl
    · rw [left, same]

theorem reachable_perform (h : c.membership.Reachable) (command : Command) :
    (perform command c).2.membership.Reachable := by
  rw [membership_perform]
  exact h.after command

/-- After every history the members are such as joins and changes of state lead to. -/
theorem reachable_run (h : c.membership.Reachable) (commands : List Command) :
    (run commands c).2.membership.Reachable := by
  induction commands generalizing c with
  | nil => exact h
  | cons command rest ih =>
    rw [run_cons]
    exact ih (reachable_perform h command)

/-! ## Routings -/

/-- The route `r` of a key is safe now. -/
structure Safe (c : Coordinator) (key : String) (r : Route) : Prop where
  /-- The node is the record that stands under its identifier. -/
  current : c.membership.get? r.node.id = some r.node
  alive : r.node.state = .alive
  served : r.endpoint ∈ r.node.endpoints c.port
  eligible : r.endpoint ∈ c.eligible key
  load_eq : r.load = c.load.get r.endpoint
  /-- No endpoint that can serve the key has less load. -/
  least : ∀ e ∈ c.eligible key, r.load ≤ c.load.get e
  /-- No member that is suspect or dead is chosen. -/
  skipped : ∀ id n, c.membership.get? id = some n → n.state ≠ .alive → r.node.id ≠ id

theorem safe_of_isLeast (reached : c.membership.Reachable)
    (h : Routing.IsLeast c.membership.aliveMembers c.load (c.eligible key) c.port r) :
    Safe c key r := by
  obtain ⟨member, alive⟩ := Membership.mem_aliveMembers.mp h.node_mem
  have current := reached.mem_members_iff.mp member
  refine ⟨current, alive, h.serves.1, h.serves.2, h.load_eq,
    fun e he => Coordinator.le_load_of_isLeast h he, fun id n found down same => ?_⟩
  rw [← same, current] at found
  rw [← Option.some.inj found] at down
  exact down alive

/-- After every history, a routing that succeeds is safe. -/
theorem run_routes_safely (start : c.membership.Reachable) (commands : List Command)
    (routed : (Coordinator.route key (run commands c).2).1 = .ok r) :
    Safe (run commands c).2 key r :=
  safe_of_isLeast (reachable_run start commands) (Coordinator.isLeast_of_route routed)

/-- Two replicas of every key, of which one is about to change. -/
def replicated : Coordinator where
  placement := .new 4 2
  port := 8100
  membership := (Membership.new (.new "a" ["10.0.0.1"])).join (.new "b" ["10.0.0.2"])
  load := ∅

/-- A history in which one node goes down and the other one moves. -/
def moves : List Command :=
  [.route "k1", .setState "a" .dead, .record ⟨"10.0.0.2", 8100⟩, .join (.new "b" ["10.0.0.3"]),
    .requestRoute ⟨"k1"⟩, .setState "c" .suspect]

/-- Where the next work on a key goes then: to the node that moved. -/
def moved : Route := ⟨.new "b" ["10.0.0.3"], ⟨"10.0.0.3", 8100⟩, 1⟩

theorem run_routes_safely_moves : replicated.membership.Reachable ∧
    (Coordinator.route "k1" (run moves replicated).2).1 = .ok moved ∧
    Safe (run moves replicated).2 "k1" moved := by
  have start : replicated.membership.Reachable := .join (.new _) _
  have routed : (Coordinator.route "k1" (run moves replicated).2).1 = .ok moved := by cbv
  exact ⟨start, routed, run_routes_safely start moves routed⟩

end Command

end Concordance
