import Concordance.Profile.Similarity

/-!
# Ranking by similarity

Candidates are ranked by their similarity to a query, the most similar first and
equally similar ones by their number. Those that are not similar at all are left
out. A limit cuts the ranking short.

* `Hit.precedes_trans`, `Hit.precedes_total`: hits can be put in order.
* `Ranking.all`: every hit, in order.
* `Ranking.top`: the first hits.
-/

namespace Concordance

/-- The number that a document goes by. -/
abbrev DocumentId := UInt64

/-- A document that was found, with its similarity to the query. -/
structure Hit where
  document : DocumentId
  score : Float

/-- Whether the hit `a` is ranked no later than `b`. -/
def Hit.precedes (a b : Hit) : Bool :=
  let keyA := Binary64.totalKey a.score
  let keyB := Binary64.totalKey b.score
  keyB < keyA || (keyA == keyB && a.document ≤ b.document)

theorem Hit.precedes_iff {a b : Hit} : a.precedes b = true ↔
    Binary64.totalKey b.score < Binary64.totalKey a.score ∨
      Binary64.totalKey a.score = Binary64.totalKey b.score ∧ a.document ≤ b.document := by
  simp [precedes]

theorem Hit.precedes_trans {a b c : Hit} (hab : a.precedes b = true) (hbc : b.precedes c = true) :
    a.precedes c = true := by
  rw [precedes_iff, UInt64.le_iff_toNat_le] at *
  omega

theorem Hit.precedes_total (a b : Hit) : (a.precedes b || b.precedes a) = true := by
  rw [Bool.or_eq_true, precedes_iff, precedes_iff, UInt64.le_iff_toNat_le,
    UInt64.le_iff_toNat_le]
  omega

namespace Ranking

/-- The candidates with their similarity to the query, if every one can be
compared. -/
def scored (query : Profile) (candidates : List (DocumentId × Profile)) :
    Except InvalidWeight (List Hit) :=
  candidates.mapM fun (id, p) => do return ⟨id, ← query.similarity p⟩

/-- The candidates that share something with the query, in order. -/
def all (query : Profile) (candidates : List (DocumentId × Profile)) :
    Except InvalidWeight (List Hit) := do
  let hits ← scored query candidates
  return (hits.filter fun h => h.score > 0.0).mergeSort Hit.precedes

/-- The first `limit` of the candidates that share something with the query. -/
def top (limit : Nat) (query : Profile) (candidates : List (DocumentId × Profile)) :
    Except InvalidWeight (List Hit) := do
  return (← all query candidates).take limit

end Ranking

end Concordance
