import Concordance.Proofs.Document.Counts
import Concordance.Proofs.Profile.CosineLaw
import Concordance.Proofs.Service.Ranking

/-!
# Requests about documents with countable words

What is compared and ranked are documents, and their weights count words. Where these counts
are below `2 ^ 32` no request is refused, whatever the analyzers and whatever state they are
looked up in: each comparison has a score from zero to one. A ranking leaves out just the
candidates that share nothing with the query.

* `SearchService.run_compare`, `SearchService.run_rank`: what is answered in any registry.
* `SearchService.documents_accepted`: documents are never refused.
* `SearchService.totalCount_rank_eq_countP_shares`: which candidates a ranking counts.
-/

namespace Concordance

open Binary64 Registry

variable {σ : Type} {factory : Factory σ} {outcome : Language → Except AnalyzerError Analyzer}

/-! ## Short texts -/

theorem Article.countsBelow_of_short (a : Analyzer) {x : Article}
    (title : x.title.length + 1 < 2 ^ 31) (body : x.body.length + 1 < 2 ^ 31) :
    a.CountsBelow x.document := by
  refine a.countsBelow_of_short fun f field text value extracted => ?_
  rcases text_of_extracted field extracted value with rfl | rfl
  · exact title
  · exact body

/-! ## Answers in any registry -/

theorem IsCount.exact_eq {w : Float} (h : IsCount w) :
    ∃ n : ℕ, 1 ≤ n ∧ w = Float.ofNat n ∧ exact w = n := by
  obtain ⟨n, pos, lt, rfl⟩ := h
  exact ⟨n, pos, rfl, exact_natCast (by omega)⟩

namespace SearchService

theorem run_compare (r : Registry σ) (request : SimilarityRequest) :
    ((SearchService.compare request).run r).1 = compared request (r.built request.left.document)
      (built (request.left.document.profile.run r).2 request.right.document) := by
  rw [SearchService.compare, run_bind, run_bind, run_pure, built, built]

theorem run_rank (r : Registry σ) (request : RankRequest) :
    ((rank request).run r).1 = ranking request (r.built request.query.document)
      ((request.candidates.mapM candidate).run (request.query.document.profile.run r).2).1 := by
  rw [rank, run_bind, run_bind, run_pure, built]

theorem run_candidates_cons (r : Registry σ) (x : Article) (rest : List Article) :
    (((x :: rest).mapM candidate).run r).1 = (x.id, r.built x.document) ::
      ((rest.mapM candidate).run (x.document.profile.run r).2).1 := by
  rw [List.mapM_cons, run_bind, run_bind, run_pure, candidate, run_bind, run_pure, built]

/-- The answer to a comparison of counted profiles. -/
theorem compared_of_counted (request : SimilarityRequest) {p q : Profile} (hp : p.Counted)
    (hq : q.Counted) : compared request p q =
      ⟨.ok, ⟨request.left.id, request.right.id, some (p.cosine q), none⟩⟩ := by
  rw [compared, hp.similarity_eq_ok hq]

theorem counted_candidates {r : Registry σ} {articles : List Article}
    (h : r.CountsBelow (articles.map Article.document)) :
    ∀ entry ∈ ((articles.mapM candidate).run r).1, entry.2.Counted := by
  induction articles generalizing r with
  | nil => exact nofun
  | cons x rest ih =>
    have first : (r.built x.document).Counted := h.counted
    simp only [run_candidates_cons, List.forall_mem_cons]
    exact ⟨first, ih h.2⟩

/-- Documents whose words are countable are never refused, whatever the registry. Their weights
are whole numbers from one on. Comparisons succeed, with a score that is a number from zero to
one, and rankings succeed. -/
theorem documents_accepted (r : Registry σ) :
    (∀ d : Document, r.CountsBelow [d] → ∀ c ∈ (r.built d).components,
        ∃ n : ℕ, 1 ≤ n ∧ c.weight = Float.ofNat n ∧ exact c.weight = n) ∧
      (∀ request : SimilarityRequest,
        r.CountsBelow [request.left.document, request.right.document] →
          let reply := ((SearchService.compare request).run r).1
          reply.status = .ok ∧ reply.body.error = none ∧ ∃ s, reply.body.score = some s ∧
            s.isNaN = false ∧ 0.0 ≤ s ∧ s ≤ 1.0) ∧
      ∀ request : RankRequest,
        r.CountsBelow ((request.query :: request.candidates).map Article.document) →
          let reply := ((rank request).run r).1
          reply.status = .ok ∧ reply.body.error = none := by
  refine ⟨fun d few c mem => (few.counted c mem).exact_eq, fun request few => ?_,
    fun request few => ?_⟩
  · have left : (r.built request.left.document).Counted := few.counted
    have right : (built (request.left.document.profile.run r).2 request.right.document).Counted :=
      CountsBelow.counted few.2
    rw [run_compare, compared_of_counted request left right]
    exact ⟨rfl, rfl, _, rfl, left.cosine_mem_unit right⟩
  · have query : (r.built request.query.document).Counted := few.counted
    have candidates := counted_candidates few.2
    have answer := ranking_of_valid request query.valid fun entry mem =>
      (candidates entry mem).valid
    rw [run_rank, answer]
    exact ⟨rfl, rfl⟩

theorem documents_accepted_lamps :
    Registry.builtin.CountsBelow [Article.lamps.document, Article.nights.document] ∧
      ∃ s, ((SearchService.compare ⟨.lamps, .nights⟩).run .builtin).1.body.score = some s ∧
        0.0 ≤ s ∧ s ≤ 1.0 := by
  have few : Registry.builtin.CountsBelow [Article.lamps.document, Article.nights.document] :=
    ⟨Article.countsBelow_of_short _ (by decide +kernel) (by decide +kernel),
      Article.countsBelow_of_short _ (by decide +kernel) (by decide +kernel), trivial⟩
  obtain ⟨-, -, s, score, -, range⟩ := (documents_accepted .builtin).2.1 ⟨.lamps, .nights⟩ few
  exact ⟨few, s, score, range⟩

/-! ## What a ranking leaves out -/

/-- Let the factory be a pure function of the language. A ranking counts the candidates that have
a facet in common with the query, and leaves out the others. -/
theorem totalCount_rank_eq_countP_shares (computes : factory.Computes outcome)
    {r r' : Registry σ} (reached : Reached factory r) (reached' : Reached factory r')
    (request : RankRequest)
    (few : ∀ x ∈ request.query :: request.candidates,
      (r'.serving x.language).CountsBelow x.document) :
    ((rank request).run r).1.body.totalCount =
      request.candidates.countP fun x =>
        (r'.built request.query.document).shares (r'.built x.document) := by
  have counted : ∀ x ∈ request.query :: request.candidates, (x.profile outcome).Counted := by
    intro x mem
    rw [← built_of_reached reached' computes, built_eq]
    exact Analyzer.counted_profile _ (few x mem)
  obtain ⟨query, candidates⟩ := List.forall_mem_cons.mp counted
  have right := valid_entries outcome request.candidates
  rw [(gives_rank computes request r reached).1, ranking_of_valid request query.valid right]
  simp only [Ranking.length_ranked, entries, List.countP_map, built_of_reached reached' computes]
  refine List.countP_congr fun x mem => ?_
  simpa only [Function.comp_apply, decide_eq_true_iff] using query.cosine_pos_iff (candidates x mem)

theorem totalCount_rank_eq_countP_shares_nights :
    Factory.builtin.Computes Factory.builtinOutcome ∧ Reached Factory.builtin .builtin ∧
      ((rank .nights).run Registry.builtin).1.body.totalCount = 1 := by
  have reached : Reached Factory.builtin .builtin := .new 0 1
  have few : ∀ x ∈ RankRequest.nights.query :: RankRequest.nights.candidates,
      (Registry.builtin.serving x.language).CountsBelow x.document := by
    intro x mem
    have short : x.title.length + 1 < 2 ^ 31 ∧ x.body.length + 1 < 2 ^ 31 := by
      revert x
      decide +kernel
    exact Article.countsBelow_of_short _ short.1 short.2
  refine ⟨Factory.builtin_computes, reached, ?_⟩
  rw [totalCount_rank_eq_countP_shares Factory.builtin_computes reached reached .nights few]
  decide +kernel

end SearchService

end Concordance
