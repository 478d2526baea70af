import Concordance.Proofs.Cluster.Counters
import Concordance.Proofs.Service.Failure
import Mathlib.Data.Prod.Lex

/-!
# The choice as one minimum

Routing first looks for the least loaded endpoint of each node and then for the least loaded of
these, with a rule for ties at either step. All eligible endpoints of all nodes can as well be
compared at once: by their load, then by the place of the node, then by the place of the
endpoint at its node.

* `Routing.Offer`, `Routing.Offer.key`: an endpoint of a node, and what it is compared by.
* `Routing.exists_isLeast`: the route that is chosen is that of a least offer.
* `Routing.choose_least_offer`: routing chooses the one least offer, or says why there is none.
-/

namespace Concordance

/-- An element of a list that is cut stands in front of the cut, at it, or behind it. -/
theorem getElem?_append_cons_cases {α : Type} {before after : List α} {a b : α} {i : ℕ}
    (found : (before ++ b :: after)[i]? = some a) :
    a ∈ before ∨ before.length = i ∧ b = a ∨ before.length < i := by
  rcases Nat.lt_trichotomy i before.length with lt | rfl | gt
  · rw [List.getElem?_append_left lt] at found
    exact .inl (List.mem_of_getElem? found)
  · rw [List.getElem?_append_right (Nat.le_refl _), Nat.sub_self, List.getElem?_cons_zero] at found
    exact .inr (.inl ⟨rfl, Option.some.inj found⟩)
  · exact .inr (.inr gt)

namespace Routing

variable {nodes : List Node} {load : LoadTable} {eligible : SortedSet Endpoint} {port : UInt16}

/-- An endpoint of a node, with the place of the node among the nodes and the place of the
endpoint among those of the node. -/
structure Offer where
  index : ℕ
  node : Node
  place : ℕ
  endpoint : Endpoint

namespace Offer

/-- The offer is there: what it names stands in its places, and the endpoint is eligible. -/
structure Stands (nodes : List Node) (eligible : SortedSet Endpoint) (port : UInt16)
    (o : Offer) : Prop where
  node : nodes[o.index]? = some o.node
  endpoint : (o.node.endpoints port)[o.place]? = some o.endpoint
  eligible : o.endpoint ∈ eligible

/-- What an offer is compared by: the load of its endpoint, then the place of its node, then
the place of its endpoint. -/
def key (load : LoadTable) (o : Offer) : UInt64 ×ₗ ℕ ×ₗ ℕ :=
  toLex (load.get o.endpoint, toLex (o.index, o.place))

/-- The offer is there, and no other one comes before it. -/
structure IsLeast (nodes : List Node) (load : LoadTable) (eligible : SortedSet Endpoint)
    (port : UInt16) (o : Offer) : Prop where
  stands : o.Stands nodes eligible port
  le : ∀ o' : Offer, o'.Stands nodes eligible port → o.key load ≤ o'.key load

/-- The route by which an offer is taken. -/
def route (load : LoadTable) (o : Offer) : Route := ⟨o.node, o.endpoint, load.get o.endpoint⟩

variable {o o' : Offer}

theorem key_le_iff : o.key load ≤ o'.key load ↔
    load.get o.endpoint < load.get o'.endpoint ∨ load.get o.endpoint = load.get o'.endpoint ∧
      (o.index < o'.index ∨ o.index = o'.index ∧ o.place ≤ o'.place) := by
  rw [key, key, Prod.Lex.toLex_le_toLex, Prod.Lex.toLex_le_toLex]

theorem Stands.mem (h : o.Stands nodes eligible port) : o.node ∈ nodes :=
  List.mem_of_getElem? h.node

theorem Stands.serves (h : o.Stands nodes eligible port) :
    Serves eligible port o.node o.endpoint :=
  ⟨List.mem_of_getElem? h.endpoint, h.eligible⟩

/-- The places of an offer tell the node and the endpoint. -/
theorem Stands.eq_of_places (h : o.Stands nodes eligible port) (h' : o'.Stands nodes eligible port)
    (index : o.index = o'.index) (place : o.place = o'.place) : o = o' := by
  obtain ⟨i, n, j, e⟩ := o
  obtain ⟨i', n', j', e'⟩ := o'
  obtain rfl : i = i' := index
  obtain rfl : j = j' := place
  obtain rfl : n = n' := Option.some.inj (h.node.symm.trans h'.node)
  obtain rfl : e = e' := Option.some.inj (h.endpoint.symm.trans h'.endpoint)
  rfl

/-- There is at most one least offer. -/
theorem IsLeast.unique (h : o.IsLeast nodes load eligible port)
    (h' : o'.IsLeast nodes load eligible port) : o = o' := by
  have le := key_le_iff.mp (h.le o' h'.stands)
  have ge := key_le_iff.mp (h'.le o h.stands)
  rw [UInt64.lt_iff_toNat_lt, ← UInt64.toNat_inj] at le ge
  exact h.stands.eq_of_places h'.stands (by omega) (by omega)

theorem exists_stands {n : Node} {e : Endpoint} (mem : n ∈ nodes)
    (serves : Serves eligible port n e) : ∃ o : Offer, o.Stands nodes eligible port := by
  obtain ⟨i, node⟩ := List.getElem?_of_mem mem
  obtain ⟨j, endpoint⟩ := List.getElem?_of_mem serves.1
  exact ⟨⟨i, n, j, e⟩, node, endpoint, serves.2⟩

end Offer

/-- A route of least load, to the first node and there through the first endpoint that have it,
takes a least offer. -/
theorem exists_isLeast {r : Route} (h : IsLeast nodes load eligible port r) :
    ∃ o : Offer, o.IsLeast nodes load eligible port ∧ o.route load = r := by
  obtain ⟨nodesBefore, nodesAfter, nodesSplit, lowerNodes⟩ := h.firstNode
  obtain ⟨before, after, split, lower⟩ := h.firstEndpoint
  have stands : Offer.Stands nodes eligible port
      ⟨nodesBefore.length, r.node, before.length, r.endpoint⟩ :=
    ⟨by simp [nodesSplit], by simp [split], h.serves.2⟩
  refine ⟨_, ⟨stands, fun o' stands' => ?_⟩, by rw [Offer.route, ← h.load_eq]⟩
  rw [Offer.key_le_iff]
  have le := h.le_load o'.node stands'.mem o'.endpoint stands'.serves
  rw [h.load_eq] at le
  rcases UInt64.lt_or_eq_of_le le with lt | same
  · exact .inl lt
  -- The loads agree, so neither the node nor the endpoint of `o'` can come earlier.
  refine .inr ⟨same, ?_⟩
  have notLess : ¬ r.load < load.get o'.endpoint := by
    rw [h.load_eq, same]
    exact UInt64.lt_irrefl _
  have node := stands'.node
  rw [nodesSplit] at node
  rcases getElem?_append_cons_cases node with early | ⟨index, here⟩ | late
  · exact absurd (lowerNodes o'.node early o'.endpoint stands'.serves) notLess
  · have endpoint := stands'.endpoint
    rw [← here, split] at endpoint
    rcases getElem?_append_cons_cases endpoint with early | ⟨place, -⟩ | late
    · exact absurd (lower o'.endpoint early stands'.eligible) notLess
    · exact .inr ⟨index, Nat.le_of_eq place⟩
    · exact .inr ⟨index, Nat.le_of_lt late⟩
  · exact .inl late

/-- Routing chooses the one least of all offers, with the load of its endpoint. Without nodes
the cluster is empty, and where nodes make no offer the error lists what is eligible, in
ascending order. The least loaded node is that of the route, and fails for the same reason. The
counters are only read: no table comes out of a choice. -/
theorem choose_least_offer (nodes : List Node) (load : LoadTable) (eligible : SortedSet Endpoint)
    (port : UInt16) :
    (nodes = [] → choose nodes load eligible port = .error .emptyCluster ∧
      leastLoaded nodes load eligible port = .error .emptyCluster) ∧
    (nodes ≠ [] → (¬ ∃ o : Offer, o.Stands nodes eligible port) →
      choose nodes load eligible port = .error (.noEligibleNode eligible.toList) ∧
      leastLoaded nodes load eligible port = .error (.noEligibleNode eligible.toList)) ∧
    eligible.toList.Pairwise (fun a b => a.host < b.host ∨ a.host = b.host ∧ a.port < b.port) ∧
    ((∃ o : Offer, o.Stands nodes eligible port) →
      ∃ o : Offer, o.IsLeast nodes load eligible port ∧
        (∀ o' : Offer, o'.IsLeast nodes load eligible port → o' = o) ∧
        choose nodes load eligible port = .ok ⟨o.node, o.endpoint, load.get o.endpoint⟩ ∧
        leastLoaded nodes load eligible port = .ok o.node) := by
  have node {outcome : Except RoutingError Route} (h : choose nodes load eligible port = outcome) :
      leastLoaded nodes load eligible port = outcome.map Route.node := by rw [leastLoaded, h]
  refine ⟨fun none => ?_, fun some none => ?_, ?_, fun ⟨o, stands⟩ => ?_⟩
  · have chosen : choose nodes load eligible port = .error .emptyCluster := by
      rw [none]
      rfl
    exact ⟨chosen, node chosen⟩
  · have unserved : ∀ n ∈ nodes, ∀ e, ¬ Serves eligible port n e :=
      fun n mem e serves => none (Offer.exists_stands mem serves)
    have chosen : choose nodes load eligible port = .error (.noEligibleNode eligible.toList) :=
      choose_of_unserved some unserved
    exact ⟨chosen, node chosen⟩
  · exact eligible.ascending.imp Endpoint.compare_eq_lt_iff.mp
  · obtain ⟨r, chosen⟩ : ∃ r, choose nodes load eligible port = .ok r :=
      exists_choose stands.mem stands.serves
    obtain ⟨least, isLeast, rfl⟩ := exists_isLeast (isLeast_of_choose chosen)
    exact ⟨least, isLeast, fun o' isLeast' => isLeast'.unique isLeast, chosen, node chosen⟩

/-- Of two equally loaded endpoints at two nodes the one at the first node is chosen, although
it stands behind a busier one there; an endpoint that is not eligible does not count. -/
example : choose [.new "a" ["x"], .new "b" ["y", "z"], .new "c" ["w"]]
      ((LoadTable.empty.record ⟨"y", 1⟩).2) (.ofList [⟨"w", 1⟩, ⟨"y", 1⟩, ⟨"z", 1⟩]) 1 =
    .ok ⟨.new "b" ["y", "z"], ⟨"z", 1⟩, 0⟩ := by
  decide +kernel

end Routing

end Concordance
