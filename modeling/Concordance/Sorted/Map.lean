/-!
# Maps kept in ascending key order

A finite map is the list of its entries, strictly ascending by key. There is one
such list for each map, so two maps that answer alike are equal, and reading a
map from front to back needs no sorting.

* `SortedMap.get?_insert_self`, `SortedMap.get?_insert_of_ne`: what an insertion
  changes and what it leaves.
* `SortedMap.ext_get?`: a map is determined by its look-ups.
-/

namespace Concordance

open Std

/-- A finite map from `κ` to `ν`, as its entries in strictly ascending key order. -/
structure SortedMap (κ ν : Type) [Ord κ] where
  entries : List (κ × ν)
  ascending : entries.Pairwise fun a b => compare a.1 b.1 = .lt

namespace SortedMap

variable {κ ν : Type} [Ord κ]

/-! ## Lists of entries -/

/-- The value under `k` in a list of entries. -/
def lookup (k : κ) : List (κ × ν) → Option ν
  | [] => none
  | (k', v) :: rest => if compare k k' = .eq then some v else lookup k rest

/-- Puts `v` under `k` into an ascending list, in place of what was there. -/
def insertEntry (k : κ) (v : ν) : List (κ × ν) → List (κ × ν)
  | [] => [(k, v)]
  | (k', v') :: rest =>
    match compare k k' with
    | .lt => (k, v) :: (k', v') :: rest
    | .eq => (k, v) :: rest
    | .gt => (k', v') :: insertEntry k v rest

theorem mem_insertEntry {k : κ} {v : ν} {e : κ × ν} {l : List (κ × ν)}
    (h : e ∈ insertEntry k v l) : e = (k, v) ∨ e ∈ l := by
  induction l with
  | nil => simpa [insertEntry] using h
  | cons e' rest ih =>
    obtain ⟨k', v'⟩ := e'
    unfold insertEntry at h
    split at h <;> grind

theorem pairwise_insertEntry [TransOrd κ] [LawfulEqOrd κ] (k : κ) (v : ν) {l : List (κ × ν)}
    (h : l.Pairwise fun a b => compare a.1 b.1 = .lt) :
    (insertEntry k v l).Pairwise fun a b => compare a.1 b.1 = .lt := by
  induction l with
  | nil => simp [insertEntry]
  | cons e rest ih =>
    obtain ⟨k', v'⟩ := e
    obtain ⟨head, tail⟩ := List.pairwise_cons.mp h
    unfold insertEntry
    split
    · rename_i hlt
      refine List.pairwise_cons.mpr ⟨fun e he => ?_, h⟩
      rcases List.mem_cons.mp he with rfl | he
      · exact hlt
      · exact TransCmp.lt_trans hlt (head e he)
    · rename_i heq
      obtain rfl := LawfulEqOrd.eq_of_compare heq
      exact List.pairwise_cons.mpr ⟨head, tail⟩
    · rename_i hgt
      refine List.pairwise_cons.mpr ⟨fun e he => ?_, ih tail⟩
      rcases mem_insertEntry he with rfl | he
      · exact OrientedCmp.lt_of_gt hgt
      · exact head e he

/-! ## The operations -/

/-- The map without entries. -/
def empty : SortedMap κ ν := ⟨[], .nil⟩

instance : EmptyCollection (SortedMap κ ν) := ⟨empty⟩

instance : Inhabited (SortedMap κ ν) := ⟨empty⟩

/-- The value under `k`, if there is one. -/
def get? (m : SortedMap κ ν) (k : κ) : Option ν := lookup k m.entries

/-- The map with `v` under `k`, in place of what was there. -/
def insert [TransOrd κ] [LawfulEqOrd κ] (m : SortedMap κ ν) (k : κ) (v : ν) : SortedMap κ ν :=
  ⟨insertEntry k v m.entries, pairwise_insertEntry k v m.ascending⟩

/-- The keys, ascending. -/
def keys (m : SortedMap κ ν) : List κ := m.entries.map (·.1)

/-- The values, ascending by their keys. -/
def values (m : SortedMap κ ν) : List ν := m.entries.map (·.2)

/-- The number of entries. -/
def size (m : SortedMap κ ν) : Nat := m.entries.length

/-- Whether there is no entry. -/
def isEmpty (m : SortedMap κ ν) : Bool := m.entries.isEmpty

/-! ## Look-ups -/

theorem lookup_insertEntry_self [LawfulEqOrd κ] (k : κ) (v : ν) (l : List (κ × ν)) :
    lookup k (insertEntry k v l) = some v := by
  induction l with
  | nil => simp [insertEntry, lookup]
  | cons e rest ih =>
    obtain ⟨k', v'⟩ := e
    unfold insertEntry
    split <;> simp_all [lookup]

theorem lookup_insertEntry_of_ne [LawfulEqOrd κ] {k k' : κ} (h : k' ≠ k) (v : ν)
    (l : List (κ × ν)) : lookup k' (insertEntry k v l) = lookup k' l := by
  have hk : ¬ compare k' k = .eq := fun e => h (LawfulEqOrd.eq_of_compare e)
  induction l with
  | nil => simp [insertEntry, lookup, hk]
  | cons e rest ih =>
    obtain ⟨k'', v''⟩ := e
    unfold insertEntry
    split
    · simp [lookup, hk]
    · rename_i heq
      obtain rfl := LawfulEqOrd.eq_of_compare heq
      simp [lookup, hk]
    · simp [lookup, ih]

@[simp] theorem get?_empty (k : κ) : (empty : SortedMap κ ν).get? k = none := rfl

@[simp] theorem get?_insert_self [TransOrd κ] [LawfulEqOrd κ] (m : SortedMap κ ν) (k : κ)
    (v : ν) : (m.insert k v).get? k = some v :=
  lookup_insertEntry_self k v m.entries

theorem get?_insert_of_ne [TransOrd κ] [LawfulEqOrd κ] (m : SortedMap κ ν) {k k' : κ}
    (h : k' ≠ k) (v : ν) : (m.insert k v).get? k' = m.get? k' :=
  lookup_insertEntry_of_ne h v m.entries

/-! ## Extensionality -/

theorem lookup_eq_none_of_lt {k : κ} {l : List (κ × ν)} (h : ∀ e ∈ l, compare k e.1 = .lt) :
    lookup k l = none := by
  induction l with
  | nil => rfl
  | cons e rest ih =>
    have hk := h e (by simp)
    simp [lookup, hk, ih fun e he => h e (by simp [he])]

theorem eq_of_lookup_eq [TransOrd κ] [LawfulEqOrd κ] {l₁ l₂ : List (κ × ν)}
    (h₁ : l₁.Pairwise fun a b => compare a.1 b.1 = .lt)
    (h₂ : l₂.Pairwise fun a b => compare a.1 b.1 = .lt)
    (h : ∀ k, lookup k l₁ = lookup k l₂) : l₁ = l₂ := by
  induction l₁ generalizing l₂ with
  | nil =>
    cases l₂ with
    | nil => rfl
    | cons e rest => simpa [lookup, ReflCmp.compare_self] using h e.1
  | cons e₁ rest₁ ih =>
    obtain ⟨k₁, v₁⟩ := e₁
    obtain ⟨head₁, tail₁⟩ := List.pairwise_cons.mp h₁
    cases l₂ with
    | nil => simpa [lookup, ReflCmp.compare_self] using h k₁
    | cons e₂ rest₂ =>
      obtain ⟨k₂, v₂⟩ := e₂
      obtain ⟨head₂, tail₂⟩ := List.pairwise_cons.mp h₂
      have hk : k₁ = k₂ := by
        cases hc : compare k₁ k₂ with
        | eq => exact LawfulEqOrd.eq_of_compare hc
        | lt =>
          have none := lookup_eq_none_of_lt fun e he => TransCmp.lt_trans hc (head₂ e he)
          simpa [lookup, ReflCmp.compare_self, hc, none] using h k₁
        | gt =>
          have hc' := OrientedCmp.lt_of_gt hc
          have none := lookup_eq_none_of_lt fun e he => TransCmp.lt_trans hc' (head₁ e he)
          simpa [lookup, ReflCmp.compare_self, hc', none] using h k₂
      subst hk
      have hv : v₁ = v₂ := by simpa [lookup, ReflCmp.compare_self] using h k₁
      subst hv
      rw [ih tail₁ tail₂ fun k => ?_]
      by_cases hc : compare k k₁ = .eq
      · obtain rfl := LawfulEqOrd.eq_of_compare hc
        rw [lookup_eq_none_of_lt head₁, lookup_eq_none_of_lt head₂]
      · simpa [lookup, hc] using h k

/-- Two maps with the same look-ups are the same map. -/
theorem ext_get? [TransOrd κ] [LawfulEqOrd κ] {m₁ m₂ : SortedMap κ ν}
    (h : ∀ k, m₁.get? k = m₂.get? k) : m₁ = m₂ := by
  obtain ⟨l₁, h₁⟩ := m₁
  obtain ⟨l₂, h₂⟩ := m₂
  obtain rfl : l₁ = l₂ := eq_of_lookup_eq h₁ h₂ h
  rfl

end SortedMap

end Concordance
