import Concordance.Proofs.Cluster.Choice
import Concordance.Proofs.Cluster.Counters
import Concordance.Service.Command

/-!
# One command, and a history of commands

What a command can do to a coordinator, told apart by whether it asks for a route.

* `ClusterService.route_eq`: a request for a route, from the routing.
* `Command.perform_of_key`: a command that asks for a route.
* `Command.load_perform`: what any command does to the load.
* `Command.run_append`: a history in two parts.
* `Command.load_run`: what a history does to the load.
* `Command.get_run_ne_maxCount`: no counter gets full in fewer than `2 ^ 64 - 1` commands.
-/

namespace Concordance

/-- The endpoint and the load that an answer reports for work that was sent. -/
def Answer.sent? : Answer → Option (Endpoint × UInt64)
  | .routed (.ok r) => some (r.endpoint, r.load)
  | .routeReply ⟨.ok, body⟩ => do return (← body.endpoint, ← body.load)
  | _ => none

/-- The endpoints that answers report for work that was sent, in turn. -/
def Answer.sentTo (answers : List Answer) : List Endpoint := (answers.filterMap sent?).map (·.1)

theorem Answer.sentTo_cons (answer : Answer) (answers : List Answer) :
    sentTo (answer :: answers) = (answer.sent?.map (·.1)).toList ++ sentTo answers := by
  rw [sentTo, List.filterMap_cons]
  cases answer.sent? <;> rfl

/-- The answer says that work could not be sent. -/
def Answer.Failed : Answer → Prop
  | .routed (.error _) => True
  | .routeReply ⟨.unavailable, body⟩ => body.error.isSome
  | _ => False

theorem Answer.sent?_of_failed {answer : Answer} (h : answer.Failed) : answer.sent? = none := by
  unfold Failed at h
  split at h
  · rfl
  · rfl
  · cases h

namespace ClusterService

/-- The answer to a request for the route of a key, by how the routing ended. -/
def answer (key : String) (partition : UInt32) : Except RoutingError Route → Reply RouteResponse
  | .ok r => ⟨.ok, ⟨key, partition, some r.node, some r.endpoint, some r.load, none⟩⟩
  | .error err => ⟨.unavailable, ⟨key, partition, none, none, none, some err.message⟩⟩

/-- A request leaves what the routing leaves, and is answered by how the routing ended. -/
theorem route_eq (request : RouteRequest) (c : Coordinator) : route request c =
    (answer request.key (c.placement.partitionOf request.key) (Coordinator.route request.key c).1,
      (Coordinator.route request.key c).2) := by
  unfold route
  simp only [bind, StateT.bind, get, getThe, MonadStateOf.get, StateT.get, pure]
  rcases Coordinator.route request.key c with ⟨_ | _, c'⟩
  · rfl
  · rfl

end ClusterService

namespace Command

/-- The key that a command asks a route for. -/
def key? : Command → Option String
  | route key => some key
  | dispatch document => some (Coordinator.documentKey document)
  | requestRoute request => some request.key
  | _ => none

/-- The endpoint that a command counts work for without a routing. -/
def recorded? : Command → Option Endpoint
  | record e => some e
  | _ => none

/-- The endpoints that a command charges, read off the command and its answer. -/
def charges (command : Command) (answer : Answer) : List Endpoint :=
  (answer.sent?.map (·.1)).toList ++ command.recorded?.toList

variable {command : Command} {c : Coordinator} {key : String}

/-! ## Commands that ask for a route -/

theorem perform_route (key : String) (c : Coordinator) : perform (route key) c =
    (.routed (Coordinator.route key c).1, (Coordinator.route key c).2) := rfl

theorem perform_dispatch (document : UInt64) (c : Coordinator) :
    perform (dispatch document) c = perform (route (Coordinator.documentKey document)) c := rfl

theorem perform_requestRoute (request : RouteRequest) (c : Coordinator) :
    perform (requestRoute request) c =
      (.routeReply (ClusterService.route request c).1, (ClusterService.route request c).2) := rfl

/-- Each command that asks for a route reports the route and leaves what the routing leaves. -/
theorem perform_of_ok {c' : Coordinator} {r : Route} (asked : command.key? = some key)
    (routed : Coordinator.route key c = (.ok r, c')) :
    (perform command c).1.sent? = some (r.endpoint, r.load) ∧ (perform command c).2 = c' := by
  cases command with
  | route | dispatch =>
    obtain rfl := Option.some.inj asked
    simp only [perform_dispatch, perform_route]
    rw [routed]
    exact ⟨rfl, rfl⟩
  | requestRoute request =>
    obtain rfl := Option.some.inj asked
    rw [perform_requestRoute, ClusterService.route_eq, routed]
    exact ⟨rfl, rfl⟩
  | _ => cases asked

/-- Each command that asks for a route fails where the routing does. -/
theorem perform_of_error {c' : Coordinator} {err : RoutingError}
    (asked : command.key? = some key) (failed : Coordinator.route key c = (.error err, c')) :
    (perform command c).1.Failed ∧ (perform command c).2 = c' := by
  cases command with
  | route | dispatch =>
    obtain rfl := Option.some.inj asked
    simp only [perform_dispatch, perform_route]
    rw [failed]
    exact ⟨trivial, rfl⟩
  | requestRoute request =>
    obtain rfl := Option.some.inj asked
    rw [perform_requestRoute, ClusterService.route_eq, failed]
    exact ⟨rfl, rfl⟩
  | _ => cases asked

/-- What a command that asks for a route does: it reports a route of least load and charges
its endpoint, or it fails and changes nothing. -/
theorem perform_of_key (asked : command.key? = some key) :
    (∃ r, (perform command c).1.sent? = some (r.endpoint, r.load) ∧
      (perform command c).2 = c.charge r.endpoint ∧
      Routing.IsLeast c.membership.aliveMembers c.load (c.eligible key) c.port r) ∨
    (perform command c).1.Failed ∧ (perform command c).2 = c ∧ ∀ e, e ∉ c.eligible key := by
  rcases Coordinator.route_cases c key with ⟨r, routed, least⟩ | ⟨err, failed, none⟩
  · obtain ⟨reported, left⟩ := perform_of_ok asked routed
    exact .inl ⟨r, reported, left, least⟩
  · obtain ⟨fails, left⟩ := perform_of_error asked failed
    exact .inr ⟨fails, left, none⟩

/-! ## All commands -/

theorem recorded?_of_key (asked : command.key? = some key) : command.recorded? = none := by
  cases command with
  | record e => cases asked
  | _ => rfl

/-- A command that asks for no route reports none, and charges what it records. -/
theorem perform_of_key_eq_none (other : command.key? = none) :
    (perform command c).1.sent? = none ∧
      (perform command c).2.load = c.load.charged command.recorded?.toList := by
  cases command with
  | route | dispatch | requestRoute => cases other
  | _ => exact ⟨rfl, rfl⟩

/-- A command charges the endpoint of the route that it reports, or what it records. -/
theorem load_perform (command : Command) (c : Coordinator) :
    (perform command c).2.load = c.load.charged (command.charges (perform command c).1) := by
  unfold charges
  cases asked : command.key? with
  | none =>
    obtain ⟨reported, load⟩ := perform_of_key_eq_none (c := c) asked
    rw [reported, load]
    rfl
  | some key =>
    rw [recorded?_of_key asked]
    rcases perform_of_key (c := c) asked with ⟨r, reported, left, -⟩ | ⟨fails, left, -⟩
    · rw [reported, left]
      rfl
    · rw [Answer.sent?_of_failed fails, left]
      rfl

/-- A command charges at most one endpoint. -/
theorem length_charges_le (command : Command) (c : Coordinator) :
    (command.charges (perform command c).1).length ≤ 1 := by
  rw [charges]
  cases asked : command.key? with
  | none =>
    rw [(perform_of_key_eq_none asked).1]
    cases command.recorded? with
    | none => exact Nat.zero_le 1
    | some e => exact Nat.le_refl 1
  | some key =>
    rw [recorded?_of_key asked]
    cases (perform command c).1.sent? with
    | none => exact Nat.zero_le 1
    | some sent => exact Nat.le_refl 1

/-! ## Histories -/

theorem run_cons (command : Command) (rest : List Command) (c : Coordinator) :
    run (command :: rest) c = ((perform command c).1 :: (run rest (perform command c).2).1,
      (run rest (perform command c).2).2) := rfl

/-- A history in two parts. -/
theorem run_append (commands rest : List Command) (c : Coordinator) :
    run (commands ++ rest) c = ((run commands c).1 ++ (run rest (run commands c).2).1,
      (run rest (run commands c).2).2) := by
  induction commands generalizing c with
  | nil => rfl
  | cons command commands ih =>
    rw [List.cons_append, run_cons, ih, run_cons]
    rfl

/-- The endpoints that a history charges, in turn. -/
def runCharges (commands : List Command) (answers : List Answer) : List Endpoint :=
  (List.zipWith charges commands answers).flatten

theorem runCharges_cons (command : Command) (rest : List Command) (answer : Answer)
    (answers : List Answer) : runCharges (command :: rest) (answer :: answers) =
      command.charges answer ++ runCharges rest answers := rfl

/-- A history charges the endpoints of the routes that it reports, and what it records. -/
theorem load_run (commands : List Command) (c : Coordinator) :
    (run commands c).2.load = c.load.charged (runCharges commands (run commands c).1) := by
  induction commands generalizing c with
  | nil => rfl
  | cons command rest ih =>
    rw [run_cons, ih, load_perform, ← LoadTable.charged_append, runCharges_cons]

theorem length_runCharges_le (commands : List Command) (c : Coordinator) :
    (runCharges commands (run commands c).1).length ≤ commands.length := by
  induction commands generalizing c with
  | nil => exact Nat.le_refl 0
  | cons command rest ih =>
    have first := length_charges_le command c
    have others := ih (perform command c).2
    rw [run_cons, runCharges_cons, List.length_append, List.length_cons]
    omega

/-- No counter gets full in fewer than `2 ^ 64 - 1` commands. -/
theorem get_run_ne_maxCount {c : Coordinator} {commands : List Command} (start : c.load = ∅)
    (short : commands.length < 2 ^ 64 - 1) (e : Endpoint) :
    (run commands c).2.load.get e ≠ LoadTable.maxCount := by
  intro full
  have counted := LoadTable.toNat_get_charged c.load (runCharges commands (run commands c).1) e
  rw [← load_run, full, start, LoadTable.toNat_maxCount] at counted
  have zero : ((∅ : LoadTable).get e).toNat = 0 := rfl
  have some := List.count_le_length (a := e) (l := runCharges commands (run commands c).1)
  have few := length_runCharges_le commands c
  omega

end Command

end Concordance
