import Concordance.Cluster.Load
import Concordance.Proofs.Sorted.Map

/-!
# Counters after many charges

A load table that is charged with endpoints one after the other: its counters count
them, up to the greatest count, and its snapshot lists what was counted.

* `LoadTable.toNat_get_charged`: a counter after a list of charges.
* `LoadTable.mem_snapshot_iff`: the snapshot of a table lists its positive counters.
* `LoadTable.total_charged`: the sum of the counters grows by the number of charges.
-/

namespace Concordance

open Std

theorem Endpoint.compare_eq_lt_iff {a b : Endpoint} :
    compare a b = .lt ↔ a.host < b.host ∨ a.host = b.host ∧ a.port < b.port := by
  have host : compare a.host b.host = .lt ↔ a.host < b.host := compareOfLessAndEq_eq_lt
  have port : compare a.port b.port = .lt ↔ a.port < b.port := compareOfLessAndEq_eq_lt
  show (compare a.host b.host).then (compare a.port b.port) = .lt ↔ _
  rw [Ordering.then_eq_lt, host, port, LawfulEqOrd.compare_eq_iff_eq]

namespace LoadTable

/-- The table after endpoints were charged in turn. -/
def charged (t : LoadTable) (es : List Endpoint) : LoadTable :=
  es.foldl (fun t e => (t.record e).2) t

@[simp] theorem charged_nil (t : LoadTable) : t.charged [] = t := rfl

@[simp] theorem charged_cons (t : LoadTable) (e : Endpoint) (es : List Endpoint) :
    t.charged (e :: es) = (t.record e).2.charged es := rfl

theorem charged_append (t : LoadTable) (es es' : List Endpoint) :
    t.charged (es ++ es') = (t.charged es).charged es' :=
  List.foldl_append

/-! ## The counters -/

theorem toNat_maxCount : maxCount.toNat = 2 ^ 64 - 1 := rfl

theorem toNat_lt_of_ne {n : UInt64} (h : n ≠ maxCount) : n.toNat < 2 ^ 64 - 1 := by
  have := n.toNat_lt
  have : n.toNat ≠ maxCount.toNat := fun eq => h (UInt64.toNat_inj.mp eq)
  rw [toNat_maxCount] at this
  omega

/-- A counter after one charge. -/
theorem toNat_get_record (t : LoadTable) (e e' : Endpoint) :
    ((t.record e).2.get e').toNat =
      min ((t.get e').toNat + if e' = e then 1 else 0) (2 ^ 64 - 1) := by
  have bound := (t.get e').toNat_lt
  by_cases same : e' = e
  · subst same
    rw [get_record_self, if_pos rfl]
    by_cases full : t.get e' = maxCount
    · rw [full, next, if_pos rfl, toNat_maxCount]
      omega
    · have := toNat_lt_of_ne full
      rw [toNat_next full]
      omega
  · rw [get_record_of_ne t same, if_neg same]
    omega

/-- A counter after a list of charges: it counts them, up to the greatest count. -/
theorem toNat_get_charged (t : LoadTable) (es : List Endpoint) (e : Endpoint) :
    ((t.charged es).get e).toNat = min ((t.get e).toNat + es.count e) (2 ^ 64 - 1) := by
  induction es generalizing t with
  | nil =>
    have := (t.get e).toNat_lt
    simp only [charged_nil, List.count_nil]
    omega
  | cons e' rest ih =>
    rw [charged_cons, ih, toNat_get_record, List.count_cons]
    simp only [beq_iff_eq, eq_comm (a := e')]
    omega

/-- A counter that is not full after a list of charges has counted them all. -/
theorem toNat_get_charged_of_ne {t : LoadTable} {es : List Endpoint} {e : Endpoint}
    (fits : (t.charged es).get e ≠ maxCount) :
    ((t.charged es).get e).toNat = (t.get e).toNat + es.count e := by
  have := toNat_lt_of_ne fits
  have := toNat_get_charged t es e
  omega

/-- A counter that is not full after some charges was not full before them. -/
theorem ne_of_charged_ne {t : LoadTable} {es : List Endpoint} {e : Endpoint}
    (fits : (t.charged es).get e ≠ maxCount) : t.get e ≠ maxCount := by
  intro full
  have := toNat_lt_of_ne fits
  have := toNat_get_charged_of_ne fits
  rw [full, toNat_maxCount] at this
  omega

/-! ## The snapshot -/

/-- Every counter that the table keeps is positive. -/
def Used (t : LoadTable) : Prop := ∀ e ∈ t.snapshot, 0 < e.2

theorem used_empty : Used ∅ := fun _ h => by cases h

theorem used_record {t : LoadTable} (h : t.Used) (e : Endpoint) : (t.record e).2.Used := by
  rintro ⟨e', n⟩ mem
  rcases SortedMap.mem_entries_insert_iff.mp mem with ⟨-, rfl⟩ | ⟨-, old⟩
  · show 0 < next (t.get e)
    have grows := toNat_get_record t e e
    rw [get_record_self, if_pos rfl] at grows
    have := (t.get e).toNat_lt
    rw [UInt64.lt_iff_toNat_lt, grows, UInt64.toNat_zero]
    omega
  · exact h _ old

theorem used_charged {t : LoadTable} (h : t.Used) (es : List Endpoint) : (t.charged es).Used := by
  induction es generalizing t with
  | nil => exact h
  | cons e rest ih => exact ih (used_record h e)

/-- The snapshot lists the positive counters. -/
theorem mem_snapshot_iff {t : LoadTable} (h : t.Used) {e : Endpoint} {n : UInt64} :
    (e, n) ∈ t.snapshot ↔ t.get e = n ∧ 0 < n := by
  have entry : (e, n) ∈ t.snapshot ↔ t.counters.get? e = some n := SortedMap.mem_entries_iff
  constructor
  · intro mem
    refine ⟨?_, h _ mem⟩
    rw [get, entry.mp mem, Option.getD_some]
  · rintro ⟨rfl, positive⟩
    rw [entry]
    cases found : t.counters.get? e with
    | none => simp [get, found] at positive
    | some n => simp [get, found]

/-- The snapshot is in strictly ascending order of hosts, then of ports. -/
theorem pairwise_snapshot (t : LoadTable) : t.snapshot.Pairwise fun a b =>
    a.1.host < b.1.host ∨ a.1.host = b.1.host ∧ a.1.port < b.1.port :=
  t.counters.ascending.imp Endpoint.compare_eq_lt_iff.mp

/-- The sum of the counters. -/
def total (t : LoadTable) : Nat := (t.snapshot.map fun e => e.2.toNat).sum

theorem total_record {t : LoadTable} {e : Endpoint} (fits : t.get e ≠ maxCount) :
    (t.record e).2.total = t.total + 1 := by
  have sum := SortedMap.sum_entries_insert UInt64.toNat t.counters e (next (t.get e))
  have old : ((t.counters.get? e).map UInt64.toNat).getD 0 = (t.get e).toNat := by
    rw [get]
    cases t.counters.get? e <;> rfl
  rw [toNat_next fits, old] at sum
  show ((t.counters.insert e (next (t.get e))).entries.map fun e => e.2.toNat).sum = _
  rw [total, snapshot]
  omega

/-- The sum of the counters grows by the number of charges, if none gets full. -/
theorem total_charged {t : LoadTable} {es : List Endpoint}
    (fits : ∀ e, (t.charged es).get e ≠ maxCount) : (t.charged es).total = t.total + es.length := by
  induction es generalizing t with
  | nil => rfl
  | cons e rest ih =>
    have first : t.get e ≠ maxCount := ne_of_charged_ne (fits e)
    rw [charged_cons, ih fits, total_record first, List.length_cons]
    omega

end LoadTable

end Concordance
