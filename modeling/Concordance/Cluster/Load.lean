import Concordance.Cluster.Endpoint
import Concordance.Sorted.Map

/-!
# Load

How much work went to each endpoint. A counter grows by one with each piece of work
and stays where it is once it is as great as it can be.

* `LoadTable.record`, `LoadTable.get`: a piece of work, and the count so far.
* `LoadTable.snapshot`: every counter, by endpoint.
* `LoadTable.get_record_self`, `LoadTable.get_record_of_ne`: what a piece of work
  changes and what it leaves.
-/

namespace Concordance

/-- The counters of the endpoints that work went to. -/
structure LoadTable where
  counters : SortedMap Endpoint UInt64

namespace LoadTable

/-- The table without counters. -/
def empty : LoadTable := ⟨∅⟩

instance : EmptyCollection LoadTable := ⟨empty⟩

/-- The greatest count. -/
def maxCount : UInt64 := 0xffffffffffffffff

/-- One more than `n`, unless `n` is the greatest count. -/
def next (n : UInt64) : UInt64 := if n = maxCount then n else n + 1

/-- The load of an endpoint, which is zero before any work went there. -/
def get (t : LoadTable) (e : Endpoint) : UInt64 := (t.counters.get? e).getD 0

/-- Counts one piece of work for an endpoint and gives its new load. -/
def record (t : LoadTable) (e : Endpoint) : UInt64 × LoadTable :=
  let count := next (t.get e)
  (count, ⟨t.counters.insert e count⟩)

/-- Every counter, by endpoint. -/
def snapshot (t : LoadTable) : List (Endpoint × UInt64) := t.counters.entries

@[simp] theorem get_empty (e : Endpoint) : (empty : LoadTable).get e = 0 := rfl

@[simp] theorem get_record_self (t : LoadTable) (e : Endpoint) :
    (t.record e).2.get e = next (t.get e) := by
  simp [record, get]

theorem get_record_of_ne (t : LoadTable) {e e' : Endpoint} (h : e' ≠ e) :
    (t.record e).2.get e' = t.get e' := by
  simp [record, get, SortedMap.get?_insert_of_ne _ h]

theorem toNat_next {n : UInt64} (h : n ≠ maxCount) : (next n).toNat = n.toNat + 1 := by
  have bound : n.toNat ≠ maxCount.toNat := fun eq => h (UInt64.toNat_inj.mp eq)
  have top : maxCount.toNat = 2 ^ 64 - 1 := rfl
  have := n.toNat_lt
  simp only [next, h, if_false, UInt64.toNat_add, UInt64.toNat_one]
  omega

end LoadTable

end Concordance
