import Mathlib

/-!
# Counting members

How often the members of a list occur in another one, and how many of some lists have a member,
counted by its place.

* `sum_count_of_nodup`: the counts of all members add up to the length.
* `countP_mem_eq_sum`: lists without repetitions that have a member, place by place.
-/

namespace Concordance

variable {α : Type} [DecidableEq α]

/-- If each member of a list is one of some others, their counts add up to its length. -/
theorem sum_count_of_nodup {l sent : List α} (nodup : l.Nodup)
    (within : ∀ a ∈ sent, a ∈ l) : (l.map fun a => sent.count a).sum = sent.length := by
  have card := Multiset.sum_count_eq_card (s := l.toFinset) (m := (sent : Multiset α))
    fun a ha => List.mem_toFinset.mpr (within a ha)
  rw [Multiset.coe_card] at card
  simp only [Multiset.coe_count] at card
  rw [← List.sum_toFinset _ nodup]
  exact card

/-- Counted place by place, a list without repetitions has an element once or not at all. -/
theorem sum_getElem?_eq {l : List α} (nodup : l.Nodup) (a : α) :
    ((List.range l.length).map fun j => if l[j]? = some a then 1 else 0).sum =
      if a ∈ l then 1 else 0 := by
  induction l with
  | nil => rfl
  | cons b rest ih =>
    obtain ⟨fresh, others⟩ := List.nodup_cons.mp nodup
    have later := ih others
    rw [List.length_cons, List.range_succ_eq_map, List.map_cons, List.map_map, List.sum_cons]
    simp only [Function.comp_def, List.getElem?_cons_succ, List.getElem?_cons_zero,
      Option.some.injEq, List.mem_cons, later]
    by_cases same : b = a
    · subst same
      simp [fresh]
    · simp [same, Ne.symm same]

/-- How many of some lists have an element is counted place by place. -/
theorem countP_mem_eq_sum {lists : List (List α)} {r : ℕ} (a : α)
    (nodup : ∀ l ∈ lists, l.Nodup) (length : ∀ l ∈ lists, l.length = r) :
    lists.countP (a ∈ ·) = ((List.range r).map fun j => lists.countP (·[j]? = some a)).sum := by
  induction lists with
  | nil => simp
  | cons l rest ih =>
    obtain ⟨own, others⟩ := List.forall_mem_cons.mp nodup
    obtain ⟨rfl, same⟩ := List.forall_mem_cons.mp length
    simp only [List.countP_cons, decide_eq_true_eq, List.sum_map_add, sum_getElem?_eq own,
      ih others same]

end Concordance
