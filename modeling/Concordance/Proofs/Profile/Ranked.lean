import Concordance.Profile.Ranking
import Concordance.Proofs.Profile.Checked

/-!
# Rankings of valid profiles

Where every weight is accepted a ranking is never refused. It lists each candidate that is
similar to the query, with its similarity, and puts them in order.

* `Ranking.ranked`: the hits, in order.
* `Ranking.all_eq_ok`, `Ranking.top_eq_ok`: a ranking gives these hits, or the first of them.
* `Ranking.length_ranked`, `Ranking.exists_of_mem_ranked`: how many there are, and which.
-/

namespace Concordance

/-- A computation over a list gives a result for each element if none of them fails. -/
theorem mapM_eq_ok {α β ε : Type} {f : α → Except ε β} {g : α → β} {l : List α}
    (h : ∀ x ∈ l, f x = .ok (g x)) : l.mapM f = .ok (l.map g) := by
  induction l with
  | nil => rfl
  | cons x rest ih =>
    obtain ⟨own, others⟩ := List.forall_mem_cons.mp h
    rw [List.mapM_cons, own, ih others]
    rfl

namespace Ranking

variable {query : Profile} {candidates : List (DocumentId × Profile)}

/-- The candidates with their similarity to the query. -/
def hits (query : Profile) (candidates : List (DocumentId × Profile)) : List Hit :=
  candidates.map fun entry => ⟨entry.1, query.cosine entry.2⟩

/-- Those that are similar to the query, in order. -/
def ranked (query : Profile) (candidates : List (DocumentId × Profile)) : List Hit :=
  ((hits query candidates).filter fun h => h.score > 0.0).mergeSort Hit.precedes

section

variable (left : query.Valid) (right : ∀ entry ∈ candidates, entry.2.Valid)

include left right

theorem scored_eq_ok : scored query candidates = .ok (hits query candidates) := by
  refine mapM_eq_ok fun entry mem => ?_
  have similarity : query.similarity entry.2 = .ok (query.cosine entry.2) :=
    (Profile.checked_similarity query entry.2).eq_ok_iff.mpr ⟨left, right entry mem, rfl⟩
  show (do return Hit.mk entry.1 (← query.similarity entry.2)) = _
  rw [similarity]
  rfl

theorem all_eq_ok : all query candidates = .ok (ranked query candidates) := by
  rw [all, scored_eq_ok left right]
  rfl

theorem top_eq_ok (limit : Nat) :
    top limit query candidates = .ok ((ranked query candidates).take limit) := by
  rw [top, all_eq_ok left right]
  rfl

end

/-- There is a hit for each candidate that is similar to the query, repeated ones included. -/
theorem length_ranked (query : Profile) (candidates : List (DocumentId × Profile)) :
    (ranked query candidates).length =
      candidates.countP fun entry => decide (0.0 < query.cosine entry.2) := by
  rw [ranked, List.length_mergeSort, ← List.countP_eq_length_filter, hits, List.countP_map]
  rfl

/-- A hit is a candidate with its similarity. -/
theorem exists_of_mem_ranked {hit : Hit} (mem : hit ∈ ranked query candidates) :
    ∃ entry ∈ candidates, entry.1 = hit.document ∧ query.cosine entry.2 = hit.score := by
  obtain ⟨kept, -⟩ := List.mem_filter.mp (List.mem_mergeSort.mp mem)
  obtain ⟨entry, own, rfl⟩ := List.mem_map.mp kept
  exact ⟨entry, own, rfl, rfl⟩

end Ranking

end Concordance
