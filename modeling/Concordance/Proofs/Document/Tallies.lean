import Concordance.Document.Profile
import Mathlib.Algebra.Order.Ring.Nat
import Mathlib.Data.List.Induction

/-!
# Tallies

A tally is made from the left, one text after the other. What one step does to the counters and to
the list of texts is said once, and what a tally holds follows by induction on the texts: a counter
is the number of occurrences modulo `2 ^ 32`, and a text is listed when its counter is zero, so once
for every `2 ^ 32` occurrences that begin. Up to that many each text is listed once, in the order of
first occurrence, and below them it stands with their number.

* `Tally.get_of`, `Tally.count_order_of`: the counters, and how often each text is listed.
* `Tally.order_of_perm`, `formFacets_perm`: a tally does not depend on the order of the texts.
* `mem_formFacets`: the facets of forms, weighted with their counters.
* `Tally.order_of_eq_eraseDups`, `formFacets_eq`: where no counter comes back to zero.
-/

namespace Concordance

namespace Tally

theorem of_concat (texts : List String) (s : String) : of (texts ++ [s]) = (of texts).add s := by
  rw [of, List.foldl_append]
  rfl

/-- A counter is the number of occurrences, modulo `2 ^ 32`. -/
theorem get_of (texts : List String) (s : String) :
    (of texts).get s = UInt32.ofNat (texts.count s) := by
  -- The texts are counted from the left, so the last one is taken off.
  induction texts using List.reverseRecOn with
  | nil => rfl
  | append_singleton rest last ih =>
    rw [of_concat, get_add, ih, List.count_append]
    by_cases same : s = last
    · simp [same, UInt32.ofNat_add]
    · simp [same, Ne.symm same]

theorem get_of_eq_zero_iff {texts : List String} {s : String} :
    (of texts).get s = 0 ↔ texts.count s % 2 ^ 32 = 0 := by
  rw [get_of, ← UInt32.toNat_inj, UInt32.toNat_ofNat']
  rfl

/-- How often a text is listed that occurs `n` times: once for every `2 ^ 32` occurrences that
begin. -/
def listings (n : ℕ) : ℕ := (n + (2 ^ 32 - 1)) / 2 ^ 32

theorem listings_zero : listings 0 = 0 := by
  unfold listings
  omega

theorem listings_succ (n : ℕ) :
    listings (n + 1) = listings n + if n % 2 ^ 32 = 0 then 1 else 0 := by
  unfold listings
  split <;> omega

theorem listings_pos_iff {n : ℕ} : 0 < listings n ↔ 0 < n := by
  unfold listings
  omega

/-- Up to `2 ^ 32` occurrences, it is listed once. -/
theorem listings_eq_one {n : ℕ} (pos : 0 < n) (few : n ≤ 2 ^ 32) : listings n = 1 := by
  unfold listings
  omega

theorem count_order_of (texts : List String) (s : String) :
    (of texts).order.count s = listings (texts.count s) := by
  induction texts using List.reverseRecOn with
  | nil => exact listings_zero.symm
  | append_singleton rest last ih =>
    rw [of_concat, add, List.count_append]
    by_cases same : last = s
    · subst same
      rw [List.count_singleton_self, listings_succ, ← ih]
      by_cases zero : (of rest).get last = 0
      · rw [if_pos zero, if_pos (get_of_eq_zero_iff.mp zero), List.count_append,
          List.count_singleton_self]
      · rw [if_neg zero, if_neg (mt get_of_eq_zero_iff.mpr zero), Nat.add_zero]
    · have other : [last].count s = 0 := List.count_eq_zero_of_not_mem (by simp [Ne.symm same])
      rw [other, Nat.add_zero, ← ih]
      split
      · rw [List.count_append, other, Nat.add_zero]
      · rfl

theorem mem_order_of {texts : List String} {s : String} : s ∈ (of texts).order ↔ s ∈ texts := by
  rw [← List.count_pos_iff, count_order_of, listings_pos_iff, List.count_pos_iff]

theorem order_of_perm {texts texts' : List String} (h : texts.Perm texts') :
    (of texts).order.Perm (of texts').order := by
  refine List.perm_iff_count.mpr fun s => ?_
  rw [count_order_of, count_order_of, h.count_eq]

/-- Up to `2 ^ 32` occurrences, texts are listed in the order of first occurrence. -/
theorem order_of_eq_eraseDups {texts : List String} (few : ∀ s, texts.count s ≤ 2 ^ 32) :
    (of texts).order = texts.eraseDups := by
  induction texts using List.reverseRecOn with
  | nil => rfl
  | append_singleton rest last ih =>
    have one := few last
    rw [List.count_append, List.count_singleton_self] at one
    have fresh : (of rest).get last = 0 ↔ last ∉ rest := by
      rw [get_of_eq_zero_iff, ← List.count_eq_zero]
      omega
    have earlier : (of rest).order = rest.eraseDups := ih fun s =>
      Nat.le_trans ((List.sublist_append_left rest [last]).count_le s) (few s)
    rw [of_concat, add, earlier, List.eraseDups_append]
    by_cases occurs : last ∈ rest <;>
      simp [fresh, occurs, List.removeAll, List.eraseDups_cons]

/-- Of one text only, the tally lists nothing else. -/
theorem order_of_replicate (n : ℕ) (s : String) :
    (of (List.replicate n s)).order = List.replicate (listings n) s := by
  have only : ∀ s' ∈ (of (List.replicate n s)).order, s' = s := fun s' mem =>
    List.eq_of_mem_replicate (mem_order_of.mp mem)
  have all := List.eq_replicate_of_mem only
  rw [all, ← List.count_eq_length.mpr fun s' mem => (only s' mem).symm, count_order_of,
    List.count_replicate_self]

end Tally

/-! ## Facets of forms -/

section

variable {name : String} {forms forms' : List String}

theorem formFacets_def (name : String) (forms : List String) : formFacets name forms =
    (Tally.of forms).order.map fun form =>
      (.ofWord name form, Float.ofNat (forms.count form % 2 ^ 32)) := by
  simp only [formFacets, tally, List.map_map, Function.comp_def, Tally.get_of,
    UInt32.toNat_ofNat']

/-- Each form has its facet, weighted with its counter. -/
theorem mem_formFacets {entry : Facet × Float} : entry ∈ formFacets name forms ↔
    ∃ form ∈ forms, entry = (.ofWord name form, Float.ofNat (forms.count form % 2 ^ 32)) := by
  simp only [formFacets_def, List.mem_map, Tally.mem_order_of, eq_comm]

/-- The order of the forms does not matter, up to order. -/
theorem formFacets_perm (h : forms.Perm forms') :
    (formFacets name forms).Perm (formFacets name forms') := by
  simp only [formFacets_def, h.count_eq]
  exact (Tally.order_of_perm h).map _

/-- Below `2 ^ 32` words a form, the facets come in the order of first occurrence, each one once and
weighted with the number of its words. -/
theorem formFacets_eq (few : ∀ form, forms.count form < 2 ^ 32) : formFacets name forms =
    forms.eraseDups.map fun form => (.ofWord name form, Float.ofNat (forms.count form)) := by
  rw [formFacets_def, Tally.order_of_eq_eraseDups fun form => Nat.le_of_lt (few form)]
  simp only [Nat.mod_eq_of_lt (few _)]

theorem formFacets_replicate (name : String) (n : ℕ) (form : String) :
    formFacets name (List.replicate n form) =
      List.replicate (Tally.listings n) (.ofWord name form, Float.ofNat (n % 2 ^ 32)) := by
  rw [formFacets_def, Tally.order_of_replicate, List.map_replicate, List.count_replicate_self]

end

end Concordance
