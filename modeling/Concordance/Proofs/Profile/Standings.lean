import Concordance.Proofs.Binary64.Reordering
import Concordance.Proofs.Binary64.TotalOrder
import Concordance.Proofs.Profile.Ranked
import Concordance.Proofs.Profile.UnitRange

/-!
# Standings

Of all candidates with a similarity greater than zero there is one list in descending order of
their scores, in which equal scores stand in ascending order of their numbers. A ranking gives
the first hits of this list, in whatever order the candidates came.

* `Hit.Outranks`: what the list is ordered by, as numbers are compared.
* `Ranking.similar`: the candidates that are listed, with their scores.
* `Ranking.IsStandings`: the list of all of them, and what rankings give of it.
* `Ranking.exists_standings`: there is such a list.
-/

namespace Concordance

open Binary64

/-- The hit `a` has the greater score, or the same score and no greater number. -/
def Hit.Outranks (a b : Hit) : Prop :=
  b.score < a.score ∨ a.score = b.score ∧ a.document ≤ b.document

namespace Hit

variable {a b : Hit}

/-- Hits that are ranked alike are the same. -/
theorem eq_of_precedes (h : a.precedes b = true) (h' : b.precedes a = true) : a = b := by
  rw [precedes_iff, UInt64.le_iff_toNat_le] at h h'
  have score : a.score = b.score := totalKey_injective (by omega)
  have document : a.document = b.document := UInt64.toNat_inj.mp (by omega)
  obtain ⟨documentA, scoreA⟩ := a
  obtain rfl : scoreA = b.score := score
  obtain rfl : documentA = b.document := document
  rfl

/-- Where scores are greater than zero, hits are ranked by their scores as numbers. -/
theorem outranks_of_precedes (ha : 0.0 < a.score) (hb : 0.0 < b.score)
    (h : a.precedes b = true) : a.Outranks b := by
  rcases precedes_iff.mp h with lt | ⟨same, le⟩
  · exact .inl (lt_of_totalKey_lt (unsigned_of_zero_lt hb) (unsigned_of_zero_lt ha) lt)
  · exact .inr ⟨totalKey_injective same, le⟩

/-- Hits that outrank each other are the same. -/
theorem eq_of_outranks (h : a.Outranks b) (h' : b.Outranks a) : a = b := by
  rcases h with less | ⟨score, le⟩
  · rcases h' with less' | ⟨score', -⟩
    · exact absurd less' (lt_asymm less)
    · rw [score'] at less
      exact absurd less (lt_asymm less)
  · rcases h' with less' | ⟨-, ge⟩
    · rw [score] at less'
      exact absurd less' (lt_asymm less')
    · have document : a.document = b.document := UInt64.le_antisymm le ge
      obtain ⟨documentA, scoreA⟩ := a
      obtain rfl : scoreA = b.score := score
      obtain rfl : documentA = b.document := document
      rfl

end Hit

namespace Ranking

/-- The candidates whose similarity to the query is greater than zero, each with its number and
its similarity, in the order in which they came and as often. -/
def similar (query : Profile) (candidates : List (DocumentId × Profile)) : List Hit :=
  candidates.filterMap fun entry =>
    match query.similarity entry.2 with
    | .ok score => if 0.0 < score then some ⟨entry.1, score⟩ else none
    | .error _ => none

/-- The hits are all similar candidates, in descending order, and rankings give the first of
them. -/
structure IsStandings (query : Profile) (candidates : List (DocumentId × Profile))
    (hits : List Hit) : Prop where
  perm : hits.Perm (similar query candidates)
  descending : hits.Pairwise Hit.Outranks
  /-- No other list has them all in this order. -/
  unique : ∀ hits' : List Hit, hits'.Perm (similar query candidates) →
    hits'.Pairwise Hit.Outranks → hits' = hits
  score : ∀ hit ∈ hits, hit.score.isNaN = false ∧ (hit.score == 0.0) = false
  /-- A ranking with a limit gives the first hits, up to the limit. -/
  top : ∀ limit, top limit query candidates = .ok (hits.take limit)
  /-- The order of the candidates does not matter. -/
  reordered : ∀ candidates' : List (DocumentId × Profile), candidates'.Perm candidates →
    ∀ limit, Ranking.top limit query candidates' = Ranking.top limit query candidates

variable {query : Profile} {candidates : List (DocumentId × Profile)}

theorem similar_eq (left : query.Valid) (right : ∀ entry ∈ candidates, entry.2.Valid) :
    similar query candidates = (hits query candidates).filter fun h => h.score > 0.0 := by
  rw [similar, hits, List.filter_map, ← List.filterMap_eq_map, ← List.filterMap_eq_filter,
    List.filterMap_filterMap]
  refine List.filterMap_congr fun entry mem => ?_
  have similarity : query.similarity entry.2 = .ok (query.cosine entry.2) :=
    (Profile.checked_similarity query entry.2).eq_ok_iff.mpr ⟨left, right entry mem, rfl⟩
  rw [similarity]
  by_cases positive : 0.0 < query.cosine entry.2
  · simp [positive, Option.guard]
  · simp [positive, Option.guard]

theorem zero_lt_of_mem_ranked {hit : Hit} (mem : hit ∈ ranked query candidates) :
    0.0 < hit.score := by
  have positive := (List.mem_filter.mp (List.mem_mergeSort.mp mem)).2
  exact of_decide_eq_true positive

theorem pairwise_ranked (query : Profile) (candidates : List (DocumentId × Profile)) :
    (ranked query candidates).Pairwise fun a b => a.precedes b = true :=
  List.pairwise_mergeSort (fun a b c => @Hit.precedes_trans a b c) Hit.precedes_total
    ((hits query candidates).filter fun h => h.score > 0.0)

theorem outranks_ranked (query : Profile) (candidates : List (DocumentId × Profile)) :
    (ranked query candidates).Pairwise Hit.Outranks :=
  (pairwise_ranked query candidates).imp_of_mem fun ha hb h =>
    Hit.outranks_of_precedes (zero_lt_of_mem_ranked ha) (zero_lt_of_mem_ranked hb) h

/-- The hits come out in the same order, whatever order the candidates came in. -/
theorem ranked_eq_of_perm {candidates' : List (DocumentId × Profile)}
    (perm : candidates'.Perm candidates) : ranked query candidates' = ranked query candidates := by
  have kept : ((hits query candidates').filter fun h => h.score > 0.0).Perm
      ((hits query candidates).filter fun h => h.score > 0.0) := (perm.map _).filter _
  have sorted : (ranked query candidates').Perm (ranked query candidates) :=
    (List.mergeSort_perm _ _).trans (kept.trans (List.mergeSort_perm _ _).symm)
  exact sorted.eq_of_pairwise (fun _ _ _ _ => Hit.eq_of_precedes) (pairwise_ranked _ _)
    (pairwise_ranked _ _)

theorem isNaN_of_zero_lt {x : Float} (h : 0.0 < x) : x.isNaN = false := by
  cases nan : x.isNaN with
  | false => rfl
  | true => exact absurd h (not_lt_of_isNaN nan).2

theorem beq_zero_of_zero_lt {x : Float} (h : 0.0 < x) : (x == 0.0) = false := by
  refine Bool.eq_false_iff.mpr fun same => ?_
  rw [lt_iff] at h
  rw [beq_iff, ← compare_swap, h] at same
  cases same

/-- If all weights are valid, the similar candidates have their standings: one list of them all
in descending order of their scores, of which every ranking gives the first hits. -/
theorem exists_standings (left : query.Valid) (right : ∀ entry ∈ candidates, entry.2.Valid) :
    ∃ hits, IsStandings query candidates hits := by
  have perm : (ranked query candidates).Perm (similar query candidates) := by
    rw [similar_eq left right]
    exact List.mergeSort_perm _ _
  refine ⟨ranked query candidates, perm, outranks_ranked _ _, fun hits' perm' descending => ?_,
    fun hit mem => ?_, top_eq_ok left right, fun candidates' reordered limit => ?_⟩
  · exact (perm'.trans perm.symm).eq_of_pairwise (fun _ _ _ _ => Hit.eq_of_outranks) descending
      (outranks_ranked _ _)
  · have positive := zero_lt_of_mem_ranked mem
    exact ⟨isNaN_of_zero_lt positive, beq_zero_of_zero_lt positive⟩
  · have right' : ∀ entry ∈ candidates', entry.2.Valid :=
      fun entry mem => right entry (reordered.mem_iff.mp mem)
    rw [top_eq_ok left right', top_eq_ok left right, ranked_eq_of_perm reordered]

/-- A profile that says one word of a query and another word besides. -/
def halfway : Profile :=
  .ofList [⟨⟨⟨"title", .word⟩, .text "lean"⟩, 1, 0⟩, ⟨⟨⟨"title", .word⟩, .text "tower"⟩, 1, 1⟩]

/-- Two candidates that say just what is asked for, one that says half of it, and one that says
nothing. -/
def mixed : List (DocumentId × Profile) :=
  [(7, .single 2), (2, halfway), (5, ∅), (3, .single 1)]

theorem exists_standings_mixed : (Profile.single 1).Valid ∧ (∀ entry ∈ mixed, entry.2.Valid) ∧
    ∃ hits, IsStandings (.single 1) mixed hits := by
  have left : (Profile.single 1).Valid := by decide +kernel
  have right : ∀ entry ∈ mixed, entry.2.Valid := by decide +kernel
  exact ⟨left, right, exists_standings left right⟩

end Ranking

end Concordance
