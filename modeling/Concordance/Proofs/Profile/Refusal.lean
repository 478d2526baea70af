import Concordance.Profile.Ranking
import Concordance.Proofs.Profile.Checked

/-!
# Weights that cannot be used are never passed over

A comparison is refused just where one of the two profiles has a weight that is no number,
or infinite, or negative, whatever else stands in the profiles: a zero on the other side, no
common facet, or other components of the facet with which it would add up to a proper
weight. A ranking compares the query with every candidate, so a limit hides nothing.

* `exists_error_mapM_iff`: a computation over a list fails where it fails for an element.
* `Ranking.exists_error_scored_iff`, `Ranking.exists_error_top_iff`: what rankings refuse.
* `Profile.refused_iff`: what is refused, and with which error.
-/

namespace Concordance

/-- A computation over a list fails just where it fails for an element. -/
theorem exists_error_mapM_iff {α β ε : Type} (f : α → Except ε β) (l : List α) :
    (∃ e, l.mapM f = .error e) ↔ ∃ x ∈ l, ∃ e, f x = .error e := by
  induction l with
  | nil => exact ⟨nofun, nofun⟩
  | cons x rest ih =>
    rw [List.mapM_cons, List.exists_mem_cons_iff, ← ih]
    cases f x with
    | error e => exact ⟨fun _ => .inl ⟨e, rfl⟩, fun _ => ⟨e, rfl⟩⟩
    | ok y =>
      cases rest.mapM f with
      | error e => exact ⟨fun _ => .inr ⟨e, rfl⟩, fun _ => ⟨e, rfl⟩⟩
      | ok ys => exact ⟨nofun, fun h => by rcases h with ⟨_, h⟩ | ⟨_, h⟩ <;> cases h⟩

theorem exists_error_map_iff {α β ε : Type} (f : α → β) (result : Except ε α) :
    (∃ e, (do return f (← result)) = Except.error e) ↔ ∃ e, result = .error e := by
  cases result with
  | error e => exact ⟨fun _ => ⟨e, rfl⟩, fun _ => ⟨e, rfl⟩⟩
  | ok x => exact ⟨nofun, nofun⟩

namespace Ranking

variable (query : Profile) (candidates : List (DocumentId × Profile))

theorem exists_error_scored_iff : (∃ e, scored query candidates = .error e) ↔
    ∃ entry ∈ candidates, ∃ e, query.similarity entry.2 = .error e := by
  rw [scored, exists_error_mapM_iff]
  simp only [exists_error_map_iff]

theorem exists_error_top_iff (limit : Nat) : (∃ e, top limit query candidates = .error e) ↔
    ∃ entry ∈ candidates, ∃ e, query.similarity entry.2 = .error e := by
  rw [top, exists_error_map_iff, all, ← exists_error_scored_iff]
  exact exists_error_map_iff _ _

end Ranking

/-- Similarities and scalar products are refused just where a component of either profile has a
weight that cannot be used, and the error names such a component, one of the first profile if
that has any. A ranking is refused just where there is a candidate, and the query or some
candidate has such a component. -/
theorem Profile.refused_iff (p q : Profile) :
    ((∃ e, p.similarity q = .error e) ↔ (∃ c, p.Faulty c) ∨ ∃ c, q.Faulty c) ∧
      ((∃ e, p.dot q = .error e) ↔ (∃ c, p.Faulty c) ∨ ∃ c, q.Faulty c) ∧
      (∀ e, p.similarity q = .error e ∨ p.dot q = .error e →
        ∃ c, e = ⟨c.facet, c.weight⟩ ∧ (p.Faulty c ∨ (¬ ∃ c, p.Faulty c) ∧ q.Faulty c)) ∧
      ∀ (limit : Nat) (candidates : List (DocumentId × Profile)),
        (∃ e, Ranking.top limit p candidates = .error e) ↔
          candidates ≠ [] ∧
            ((∃ c, p.Faulty c) ∨ ∃ entry ∈ candidates, ∃ c, entry.2.Faulty c) := by
  have similarity (p q : Profile) := (checked_similarity p q).exists_error_iff
  refine ⟨similarity p q, (checked_dot p q).exists_error_iff, fun e error => ?_,
    fun limit candidates => ?_⟩
  · have named := error.elim (checked_similarity p q).of_error (checked_dot p q).of_error
    obtain ⟨c, rfl, faulty⟩ := named
    rw [← not_valid_iff, not_not]
    exact ⟨c, rfl, faulty⟩
  · rw [Ranking.exists_error_top_iff]
    simp only [similarity]
    -- The query is looked through only when it meets a candidate.
    constructor
    · rintro ⟨entry, mem, faulty⟩
      exact ⟨List.ne_nil_of_mem mem, faulty.imp_right fun own => ⟨entry, mem, own⟩⟩
    · rintro ⟨candidate, query | ⟨entry, mem, own⟩⟩
      · obtain ⟨entry, mem⟩ := List.exists_mem_of_ne_nil candidates candidate
        exact ⟨entry, mem, .inl query⟩
      · exact ⟨entry, mem, .inr own⟩

end Concordance
