import Concordance.Cluster.Load
import Concordance.Cluster.Node
import Concordance.Sorted.Set

/-!
# Routing

Work goes to the node that serves one of the eligible endpoints with the least load.
Of a node's own endpoints the first with the least load counts, and of nodes that
are equally loaded the first.

* `firstLeast`: the first of the elements with the least key.
* `split_of_firstLeast`: what stands before and after the choice.
* `Routing.choose`: the node, the endpoint and its load.
-/

namespace Concordance

/-- The first of the elements whose key is least. -/
def firstLeast {α : Type} (key : α → Nat) : List α → Option α
  | [] => none
  | a :: rest =>
    match firstLeast key rest with
    | some b => if key b < key a then some b else some a
    | none => some a

theorem firstLeast_eq_none_iff {α : Type} {key : α → Nat} {l : List α} :
    firstLeast key l = none ↔ l = [] := by
  cases l with
  | nil => simp [firstLeast]
  | cons a rest =>
    simp only [firstLeast, reduceCtorEq, iff_false]
    split
    · split <;> simp
    · simp

/-- The elements before the choice have a greater key, and those after it have no
smaller one. -/
theorem split_of_firstLeast {α : Type} {key : α → Nat} {l : List α} {a : α}
    (h : firstLeast key l = some a) :
    ∃ before after, l = before ++ a :: after ∧ (∀ b ∈ before, key a < key b) ∧
      ∀ b ∈ after, key a ≤ key b := by
  induction l generalizing a with
  | nil => simp [firstLeast] at h
  | cons head rest ih =>
    cases hr : firstLeast key rest with
    | none =>
      obtain rfl : head = a := by simpa [firstLeast, hr] using h
      obtain rfl := firstLeast_eq_none_iff.mp hr
      exact ⟨[], [], by simp⟩
    | some b =>
      obtain ⟨before, after, rfl, lower, upper⟩ := ih hr
      by_cases hlt : key b < key head
      · obtain rfl : b = a := by simpa [firstLeast, hr, hlt] using h
        exact ⟨head :: before, after, rfl, by simpa [hlt] using lower, upper⟩
      · obtain rfl : head = a := by simpa [firstLeast, hr, hlt] using h
        refine ⟨[], before ++ b :: after, rfl, by simp, fun c hc => ?_⟩
        rcases List.mem_append.mp hc with hc | hc
        · exact Nat.le_trans (Nat.le_of_not_lt hlt) (Nat.le_of_lt (lower c hc))
        · rcases List.mem_cons.mp hc with rfl | hc
          · exact Nat.le_of_not_lt hlt
          · exact Nat.le_trans (Nat.le_of_not_lt hlt) (upper c hc)

theorem le_of_firstLeast {α : Type} {key : α → Nat} {l : List α} {a b : α}
    (h : firstLeast key l = some a) (hb : b ∈ l) : key a ≤ key b := by
  obtain ⟨before, after, rfl, lower, upper⟩ := split_of_firstLeast h
  rcases List.mem_append.mp hb with hb | hb
  · exact Nat.le_of_lt (lower b hb)
  · rcases List.mem_cons.mp hb with rfl | hb
    · exact Nat.le_refl _
    · exact upper b hb

/-- Where work is sent: a node, its endpoint, and the load of that endpoint before. -/
structure Route where
  node : Node
  endpoint : Endpoint
  load : UInt64
  deriving DecidableEq

/-- Why work can be sent nowhere. -/
inductive RoutingError
  | emptyCluster
  /-- No node serves any of these endpoints, which are in ascending order. -/
  | noEligibleNode (eligible : List Endpoint)
  deriving DecidableEq

/-- The wording of an error. -/
def RoutingError.message : RoutingError → String
  | .emptyCluster => "cannot route: cluster node list is empty"
  | .noEligibleNode eligible =>
    let shown := ", ".intercalate (eligible.map Endpoint.inspect)
    "no cluster node serves any of the eligible endpoints [" ++ shown ++ "]"

namespace Routing

/-- The route to a node through its least loaded eligible endpoint. -/
def candidate? (load : LoadTable) (eligible : SortedSet Endpoint) (port : UInt16) (n : Node) :
    Option Route :=
  let matching := (n.endpoints port).filter eligible.contains
  firstLeast (fun r => r.load.toNat) (matching.map fun e => ⟨n, e, load.get e⟩)

/-- The route to the least loaded node. -/
def choose (nodes : List Node) (load : LoadTable) (eligible : SortedSet Endpoint)
    (port : UInt16) : Except RoutingError Route :=
  if nodes.isEmpty then .error .emptyCluster
  else
    let candidates := nodes.filterMap (candidate? load eligible port)
    match firstLeast (fun r => r.load.toNat) candidates with
    | some route => .ok route
    | none => .error (.noEligibleNode eligible.toList)

/-- The least loaded node. -/
def leastLoaded (nodes : List Node) (load : LoadTable) (eligible : SortedSet Endpoint)
    (port : UInt16) : Except RoutingError Node :=
  (choose nodes load eligible port).map Route.node

end Routing

end Concordance
