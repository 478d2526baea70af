import Concordance.Cluster.Placement
import Concordance.Proofs.Cluster.Membership
import Concordance.Proofs.Counting

/-!
# Holders on the ring

In the order of their identifiers the nodes form a ring, on which the first one follows the
last. The holders of a partition are a run on this ring, and where it begins is a matter of the
partition alone. So partitions with consecutive numbers begin one node further each, and as many
of them as there are nodes lay the same load on every node.

* `Placement.replicas_eq_take_rotate`: the holders begin the ring that is turned.
* `Placement.IsRun`: a run on the ring, from a place on.
* `Placement.replicas_go_round`: the holders are such a run, whatever the order of the nodes, and
  more replicas go on with it.
* `Placement.held`, `Placement.map_getElem?_held`: who holds consecutive partitions in one place.
* `Placement.held_evenly`: every node is in every place once.
-/

namespace Concordance.Placement

variable {nodes nodes' : List Node}

/-! ## The ring -/

theorem ordered_perm (nodes : List Node) : (ordered nodes).Perm nodes := List.mergeSort_perm _ _

theorem nodup_ordered (distinct : (nodes.map (·.id)).Nodup) :
    ((ordered nodes).map (·.id)).Nodup :=
  ((ordered_perm nodes).map _).nodup_iff.mpr distinct

/-- Nodes with different identifiers are put into strictly ascending order. -/
theorem pairwise_ordered (distinct : (nodes.map (·.id)).Nodup) :
    (ordered nodes).Pairwise fun a b => a.id < b.id := by
  have sorted : (ordered nodes).Pairwise fun a b => decide (a.id ≤ b.id) = true := by
    refine List.pairwise_mergeSort (fun a b c ab bc => ?_) (fun a b => ?_) nodes
    · rw [decide_eq_true_iff] at ab bc ⊢
      exact String.le_trans ab bc
    · rw [Bool.or_eq_true, decide_eq_true_iff, decide_eq_true_iff]
      exact String.le_total a.id b.id
  have apart : (ordered nodes).Pairwise fun a b => a.id ≠ b.id :=
    List.pairwise_map.mp (nodup_ordered distinct)
  refine sorted.imp₂ (fun a b le ne => ?_) apart
  rw [decide_eq_true_iff] at le
  exact String.not_le.mp fun ge => ne (String.le_antisymm le ge)

/-- The order in which the nodes are given does not matter for the ring. -/
theorem ordered_eq_of_perm (distinct : (nodes.map (·.id)).Nodup) (perm : nodes.Perm nodes') :
    ordered nodes' = ordered nodes := by
  have distinct' : (nodes'.map (·.id)).Nodup := (perm.map _).nodup_iff.mp distinct
  refine Membership.eq_of_pairwise_id (pairwise_ordered distinct') (pairwise_ordered distinct) ?_
  intro n
  rw [mem_ordered, mem_ordered, perm.mem_iff]

/-! ## The holders -/

variable (p : Placement) (partition : UInt32)

/-- The holders of a partition are the first nodes of the ring that is turned by its number. -/
theorem replicas_eq_take_rotate (nodes : List Node) : p.replicas partition nodes =
    ((ordered nodes).rotate partition.toNat).take p.replication.toNat := by
  rw [List.rotate_eq_drop_append_take_mod]
  rfl

/-- The place of a holder on the ring. -/
theorem getElem?_replicas {j : ℕ} (lt : j < min p.replication.toNat nodes.length) :
    (p.replicas partition nodes)[j]? =
      (ordered nodes)[(partition.toNat + j) % nodes.length]? := by
  obtain ⟨wanted, known⟩ := Nat.lt_min.mp lt
  rw [← length_ordered] at known
  rw [replicas_eq_take_rotate, List.getElem?_take_of_lt wanted, List.getElem?_rotate known,
    length_ordered, Nat.add_comm j]

theorem nodup_replicas (distinct : (nodes.map (·.id)).Nodup) :
    ((p.replicas partition nodes).map (·.id)).Nodup := by
  rw [replicas_eq_take_rotate, List.map_take, List.map_rotate]
  exact (List.nodup_rotate.mpr (nodup_ordered distinct)).take

theorem toNat_replication_new (partitions : UInt32) (factor : UInt64) :
    (new partitions factor).replication.toNat = max factor.toNat 1 := by
  by_cases zero : factor = 0
  · subst zero
    rfl
  · have pos : 0 < factor.toNat := UInt64.lt_iff_toNat_lt.mp (UInt64.pos_iff_ne_zero.mpr zero)
    show (if factor = 0 then 1 else factor).toNat = _
    rw [if_neg zero, max_eq_left pos]

/-- There are as many holders as wanted, at least one, or as nodes if there are fewer. -/
theorem length_replicas_new (partitions : UInt32) (factor : UInt64) (nodes : List Node) :
    ((new partitions factor).replicas partition nodes).length =
      min (max factor.toNat 1) nodes.length := by
  rw [length_replicas, toNat_replication_new]

/-- The list `run` has `count` of the nodes, none of them twice. They follow one another on the
ring of all the nodes, and the first of them has the place `start`, counted round the ring. -/
structure IsRun (nodes : List Node) (start count : ℕ) (run : List Node) : Prop where
  length_eq : run.length = count
  subset : run ⊆ nodes
  nodup : (run.map (·.id)).Nodup
  round : ∃ ring : List Node, ring.Perm nodes ∧ ring.Pairwise (fun a b => a.id < b.id) ∧
    ∀ j < count, run[j]? = ring[(start % nodes.length + j) % nodes.length]?

/-- Let no two nodes have the same identifier. The holders of a partition are as many nodes as
wanted, and they follow one another on the ring from the place on that the number of the partition
gives. They are the same in whatever order the nodes are given, and where more replicas are wanted
these come after them. -/
theorem replicas_go_round (partitions partition : UInt32) (factor : UInt64)
    (distinct : (nodes.map (·.id)).Nodup) :
    IsRun nodes partition.toNat (min (max factor.toNat 1) nodes.length)
      ((new partitions factor).replicas partition nodes) ∧
    (∀ nodes', nodes.Perm nodes' → (new partitions factor).replicas partition nodes' =
      (new partitions factor).replicas partition nodes) ∧
    ∀ factor', factor ≤ factor' → (new partitions factor).replicas partition nodes <+:
      (new partitions factor').replicas partition nodes := by
  have count := length_replicas_new partition partitions factor nodes
  refine ⟨⟨count, fun n => mem_of_mem_replicas, nodup_replicas _ _ distinct, ordered nodes,
    ordered_perm nodes, pairwise_ordered distinct, fun j lt => ?_⟩, fun nodes' perm => ?_,
    fun factor' le => ?_⟩
  · rw [Nat.mod_add_mod]
    rw [← toNat_replication_new partitions] at lt
    exact getElem?_replicas _ _ lt
  · rw [replicas_eq_take_rotate, replicas_eq_take_rotate, ordered_eq_of_perm distinct perm]
  · have more := UInt64.le_iff_toNat_le.mp le
    rw [replicas_eq_take_rotate, replicas_eq_take_rotate, toNat_replication_new,
      toNat_replication_new]
    exact List.take_prefix_take_left (by omega)

/-- Three nodes that are not given in the order of their identifiers. -/
def trio : List Node := [.new "c" ["10.0.0.1"], .new "a" ["10.0.0.2"], .new "b" ["10.0.0.3"]]

/-- The last of them holds a partition, and the first one on the ring comes after it. -/
theorem replicas_go_round_trio : (trio.map (·.id)).Nodup ∧
    (new 16 2).replicas 2 trio = [.new "c" ["10.0.0.1"], .new "a" ["10.0.0.2"]] ∧
    IsRun trio 2 2 ((new 16 2).replicas 2 trio) ∧
    (new 16 2).replicas 2 trio.reverse = (new 16 2).replicas 2 trio ∧
    (new 16 2).replicas 2 trio <+: (new 16 5).replicas 2 trio := by
  have distinct : (trio.map (·.id)).Nodup := by decide
  obtain ⟨run, order, more⟩ := replicas_go_round 16 2 2 distinct
  exact ⟨distinct, by cbv, run, order _ trio.reverse_perm.symm, more 5 (by decide)⟩

/-! ## Consecutive partitions -/

/-- The holders of the partitions from `first` on, as many partitions as there are nodes. -/
def held (p : Placement) (nodes : List Node) (first : ℕ) : List (List Node) :=
  (List.range nodes.length).map fun i => p.replicas (UInt32.ofNat (first + i)) nodes

variable {p} {first : ℕ}

/-- The nodes in one place of consecutive partitions make up the whole ring, turned. -/
theorem map_getElem?_held (range : first + nodes.length ≤ 2 ^ 32) {j : ℕ}
    (lt : j < min p.replication.toNat nodes.length) :
    (p.held nodes first).map (·[j]?) = ((ordered nodes).rotate (first + j)).map some := by
  refine List.ext_getElem? fun i => ?_
  rw [held, List.map_map, List.getElem?_map, List.getElem?_map]
  by_cases known : i < nodes.length
  · have small : (UInt32.ofNat (first + i)).toNat = first + i :=
      UInt32.toNat_ofNat_of_lt' (show first + i < 2 ^ 32 by omega)
    have turned : i + (first + j) = first + i + j := by omega
    rw [List.getElem?_range known, List.getElem?_rotate (by rwa [length_ordered]), length_ordered,
      turned, Option.map_some, Function.comp_apply, getElem?_replicas _ _ lt, small]
    have place : (first + i + j) % nodes.length < (ordered nodes).length := by
      rw [length_ordered]
      exact Nat.mod_lt _ (Nat.zero_lt_of_lt known)
    rw [List.getElem?_eq_getElem place, Option.map_some]
  · rw [List.getElem?_eq_none (by simpa using known), List.getElem?_eq_none (by simpa using known)]
    rfl

/-- So every node is in each place once. -/
theorem countP_getElem?_held (distinct : (nodes.map (·.id)).Nodup)
    (range : first + nodes.length ≤ 2 ^ 32) {n : Node} (known : n ∈ nodes) {j : ℕ}
    (lt : j < min p.replication.toNat nodes.length) :
    (p.held nodes first).countP (·[j]? = some n) = 1 := by
  have ring : ((ordered nodes).rotate (first + j)).Nodup :=
    List.nodup_rotate.mpr (nodup_ordered distinct).of_map
  calc (p.held nodes first).countP (·[j]? = some n)
      = ((p.held nodes first).map (·[j]?)).count (some n) := by
        rw [List.count_eq_countP, List.countP_map]
        exact List.countP_congr fun l _ => by simp
    _ = ((ordered nodes).rotate (first + j)).count n := by
        rw [map_getElem?_held range lt,
          List.count_map_of_injective _ some (Option.some_injective Node)]
    _ = 1 := List.count_eq_one_of_mem ring (List.mem_rotate.mpr (mem_ordered.mpr known))

/-- Let no two nodes have the same identifier, and take as many partitions with consecutive numbers
as there are nodes. Every node is in each place of their holders once: it is first for one of them,
and it holds as many as there are replicas. -/
theorem held_evenly (partitions : UInt32) (factor : UInt64)
    (distinct : (nodes.map (·.id)).Nodup) (range : first + nodes.length ≤ 2 ^ 32) {n : Node}
    (known : n ∈ nodes) :
    let lists := (new partitions factor).held nodes first
    let r := min (max factor.toNat 1) nodes.length
    (∀ j < r, lists.countP (·[j]? = some n) = 1) ∧ lists.countP (·.head? = some n) = 1 ∧
      lists.countP (n ∈ ·) = r := by
  intro lists r
  have some : 0 < nodes.length := List.length_pos_of_mem known
  have place : ∀ j < r, lists.countP (·[j]? = .some n) = 1 := by
    intro j lt
    refine countP_getElem?_held distinct range known ?_
    rwa [toNat_replication_new]
  refine ⟨place, ?_, ?_⟩
  · simp only [List.head?_eq_getElem?]
    exact place 0 (by omega)
  · have nodup : ∀ l ∈ lists, l.Nodup := by
      intro l mem
      obtain ⟨i, -, rfl⟩ := List.mem_map.mp mem
      exact (nodup_replicas _ _ distinct).of_map
    have length : ∀ l ∈ lists, l.length = r := by
      intro l mem
      obtain ⟨i, -, rfl⟩ := List.mem_map.mp mem
      exact length_replicas_new _ _ _ _
    rw [countP_mem_eq_sum n nodup length, List.map_congr_left fun j mem =>
      place j (List.mem_range.mp mem)]
    simp

/-- Three partitions that do not begin with a multiple of three, each held by two of the nodes. -/
theorem held_evenly_trio : (trio.map (·.id)).Nodup ∧ 1 + trio.length ≤ 2 ^ 32 ∧
    Node.new "b" ["10.0.0.3"] ∈ trio ∧
    (∀ j < 2, ((new 16 2).held trio 1).countP (·[j]? = some (.new "b" ["10.0.0.3"])) = 1) ∧
    ((new 16 2).held trio 1).countP (·.head? = some (.new "b" ["10.0.0.3"])) = 1 ∧
    ((new 16 2).held trio 1).countP (.new "b" ["10.0.0.3"] ∈ ·) = 2 := by
  have distinct : (trio.map (·.id)).Nodup := by decide
  have range : 1 + trio.length ≤ 2 ^ 32 := by decide
  have known : Node.new "b" ["10.0.0.3"] ∈ trio := by decide
  exact ⟨distinct, range, known, held_evenly 16 2 distinct range known⟩

end Concordance.Placement
