import Concordance.Sorted.Map
import Mathlib.Algebra.GroupWithZero.Nat
import Mathlib.Data.List.Sort

/-!
# Entries of sorted maps

The list of entries against the look-ups and the insertions of a `SortedMap`, and
what an insertion does to a sum over the entries.

* `SortedMap.mem_entries_iff`: the entries are what look-ups find.
* `SortedMap.mem_entries_insert_iff`: the entries after an insertion.
* `SortedMap.keys_eq_filter`: the keys, where there are finitely many.
* `SortedMap.sum_entries_insert`: an insertion adds the new value in place of the old.
-/

namespace Concordance.SortedMap

open Std

variable {κ ν : Type} [Ord κ]

theorem mem_of_lookup [LawfulEqOrd κ] {k : κ} {v : ν} {l : List (κ × ν)}
    (h : lookup k l = some v) : (k, v) ∈ l := by
  induction l with
  | nil => cases h
  | cons e rest ih =>
    obtain ⟨k', v'⟩ := e
    unfold lookup at h
    split at h
    · next same =>
      obtain rfl := LawfulEqOrd.eq_of_compare same
      obtain rfl : v' = v := by simpa using h
      exact List.mem_cons_self
    · exact List.mem_cons_of_mem _ (ih h)

theorem lookup_of_mem [TransOrd κ] {k : κ} {v : ν} {l : List (κ × ν)}
    (asc : l.Pairwise fun a b => compare a.1 b.1 = .lt) (h : (k, v) ∈ l) : lookup k l = some v := by
  induction l with
  | nil => cases h
  | cons e rest ih =>
    obtain ⟨head, tail⟩ := List.pairwise_cons.mp asc
    rcases List.mem_cons.mp h with rfl | h
    · simp [lookup, ReflCmp.compare_self]
    · have gt : compare k e.1 = .gt := OrientedCmp.gt_of_lt (head _ h)
      simp [lookup, gt, ih tail h]

/-- The entries are what look-ups find. -/
theorem mem_entries_iff [TransOrd κ] [LawfulEqOrd κ] {m : SortedMap κ ν} {k : κ} {v : ν} :
    (k, v) ∈ m.entries ↔ m.get? k = some v :=
  ⟨lookup_of_mem m.ascending, mem_of_lookup⟩

/-- The entries after an insertion: the new one, and the others under other keys. -/
theorem mem_entries_insert_iff [TransOrd κ] [LawfulEqOrd κ] {m : SortedMap κ ν} {k k' : κ}
    {v v' : ν} : (k', v') ∈ (m.insert k v).entries ↔
      k' = k ∧ v' = v ∨ k' ≠ k ∧ (k', v') ∈ m.entries := by
  rw [mem_entries_iff, mem_entries_iff]
  by_cases same : k' = k
  · subst same
    simp [eq_comm]
  · simp [get?_insert_of_ne _ same, same]

theorem mem_keys_iff [TransOrd κ] [LawfulEqOrd κ] {m : SortedMap κ ν} {k : κ} :
    k ∈ m.keys ↔ (m.get? k).isSome = true := by
  rw [Option.isSome_iff_exists, keys, List.mem_map]
  constructor
  · rintro ⟨⟨_, v⟩, mem, rfl⟩
    exact ⟨v, mem_entries_iff.mp mem⟩
  · rintro ⟨v, found⟩
    exact ⟨(k, v), mem_entries_iff.mpr found, rfl⟩

/-- Where all keys there are stand in a list, the keys of a map are those with a value. -/
theorem keys_eq_filter [TransOrd κ] [LawfulEqOrd κ] (m : SortedMap κ ν) {all : List κ}
    (asc : all.Pairwise fun a b => compare a b = .lt) (complete : ∀ k, k ∈ all) :
    m.keys = all.filter fun k => (m.get? k).isSome := by
  have irrefl : Std.Irrefl fun a b : κ => compare a b = .lt :=
    ⟨fun a => by simp [ReflCmp.compare_self]⟩
  have antisymm : Std.Antisymm fun a b : κ => compare a b = .lt :=
    ⟨fun a b less greater => by simp [OrientedCmp.gt_of_lt less] at greater⟩
  have keys : m.keys.Pairwise fun a b => compare a b = .lt := List.pairwise_map.mpr m.ascending
  refine keys.eq_of_mem_iff (asc.filter _) fun k => ?_
  rw [mem_keys_iff, List.mem_filter]
  exact ⟨fun found => ⟨complete k, found⟩, And.right⟩

/-! ## Sums over the entries -/

theorem sum_insertEntry [TransOrd κ] (size : ν → Nat) (k : κ) (v : ν) {l : List (κ × ν)}
    (asc : l.Pairwise fun a b => compare a.1 b.1 = .lt) :
    ((insertEntry k v l).map fun e => size e.2).sum + ((lookup k l).map size).getD 0 =
      (l.map fun e => size e.2).sum + size v := by
  induction l with
  | nil => simp [insertEntry, lookup]
  | cons e rest ih =>
    obtain ⟨k', v'⟩ := e
    obtain ⟨head, tail⟩ := List.pairwise_cons.mp asc
    unfold insertEntry
    split
    · next lt =>
      -- The key stands before every entry, so it was not there.
      have absent : lookup k rest = none :=
        lookup_eq_none_of_lt fun e he => TransCmp.lt_trans lt (head e he)
      simp [lookup, lt, absent]
      omega
    · next eq =>
      simp [lookup, eq]
      omega
    · next gt =>
      have := ih tail
      simp only [lookup, gt, reduceCtorEq, if_false, List.map_cons, List.sum_cons]
      omega

/-- An insertion adds the new value to a sum, in place of the old one. -/
theorem sum_entries_insert [TransOrd κ] [LawfulEqOrd κ] (size : ν → Nat) (m : SortedMap κ ν)
    (k : κ) (v : ν) : (((m.insert k v).entries.map fun e => size e.2).sum) +
      ((m.get? k).map size).getD 0 = (m.entries.map fun e => size e.2).sum + size v :=
  sum_insertEntry size k v m.ascending

end Concordance.SortedMap
