import Concordance.Proofs.Profile.Ranked
import Concordance.Proofs.Service.BagOfWords

/-!
# Rankings agree with comparisons

A ranking and a comparison build their profiles each on its own, and a ranking orders all its
hits before it is cut. Still it counts just the candidates that a comparison with the query
gives a score greater than zero, it lists the scores that comparisons give, and the cut is the
one that a ranking with a limit makes.

* `SearchService.gives_rank`: what a ranking answers, from the profiles.
* `SearchService.reported`: the score that a comparison gives.
* `SearchService.rank_agrees_with_compare`: the two agree.
-/

namespace Concordance

open Binary64 Registry

variable {σ : Type} {factory : Factory σ} {outcome : Language → Except AnalyzerError Analyzer}

/-- The number of hits that are wanted, ten if nothing is said. -/
def RankRequest.wanted (request : RankRequest) : ℕ := (request.limit.map UInt64.toNat).getD 10

/-- A ranking of two articles. The first one has something in common with the query, and the
second one has not. -/
def RankRequest.nights : RankRequest :=
  ⟨.nights, [.lamps, ⟨4, .en, "Rain", "It poured.", none, some 2001⟩], none⟩

namespace SearchService

/-! ## Answers from profiles -/

/-- The answer lists the first of the hits, and the number of all of them. -/
theorem ranking_of_valid (request : RankRequest) {query : Profile}
    {candidates : List (DocumentId × Profile)} (left : query.Valid)
    (right : ∀ entry ∈ candidates, entry.2.Valid) :
    let hits := Ranking.ranked query candidates
    let results := hits.take request.wanted
    ranking request query candidates =
      ⟨.ok, ⟨request.query.id, hits.length, results.length, results, none⟩⟩ := by
  have wanted : (request.limit.getD defaultLimit).toNat = request.wanted := by
    rw [RankRequest.wanted]
    cases request.limit <;> rfl
  rw [ranking, Ranking.all_eq_ok left right, wanted]

/-! ## In front of a pure factory -/

/-- The profiles of the candidates, with their numbers. -/
def entries (outcome : Language → Except AnalyzerError Analyzer) (articles : List Article) :
    List (DocumentId × Profile) :=
  articles.map fun x => (x.id, x.profile outcome)

theorem valid_entries (outcome : Language → Except AnalyzerError Analyzer)
    (articles : List Article) : ∀ entry ∈ entries outcome articles, entry.2.Valid := by
  intro entry mem
  obtain ⟨x, -, rfl⟩ := List.mem_map.mp mem
  exact x.valid_profile outcome

theorem gives_candidates (computes : factory.Computes outcome) (articles : List Article) :
    Gives factory (articles.mapM candidate) (entries outcome articles) :=
  Yields.mapM (fun x => (x.gives_profile computes).bind (.pure _)) articles

theorem gives_rank (computes : factory.Computes outcome) (request : RankRequest) :
    Gives factory (rank request)
      (ranking request (request.query.profile outcome) (entries outcome request.candidates)) :=
  (request.query.gives_profile computes).bind
    ((gives_candidates computes request.candidates).bind (.pure _))

/-- The score that a comparison of two articles gives in a registry. -/
def reported (r : Registry σ) (x y : Article) : Option Float :=
  ((SearchService.compare ⟨x, y⟩).run r).1.body.score

section

variable {r : Registry σ} (reached : Reached factory r) (computes : factory.Computes outcome)

include reached computes

theorem built_of_reached (x : Article) : r.built x.document = x.profile outcome :=
  (x.gives_profile computes r reached).1

/-- It is the cosine of the angle between their profiles. -/
theorem reported_eq (x y : Article) :
    reported r x y = some ((x.profile outcome).cosine (y.profile outcome)) := by
  rw [reported, (gives_compare computes ⟨x, y⟩ r reached).1, (compared_verdict _ _ _).2, verdict,
    if_pos ⟨x.valid_profile outcome, y.valid_profile outcome⟩]

end

/-- Let the factory be a pure function of the language. A ranking counts the candidates, with
repetitions, that a comparison with the query gives a score greater than zero. It lists scores of
comparisons with a candidate of that number. It shows as many hits as wanted, ten if nothing is
said, or all there are, and they are those of a ranking of the profiles with this limit. -/
theorem rank_agrees_with_compare (computes : factory.Computes outcome) {r r' : Registry σ}
    (reached : Reached factory r) (reached' : Reached factory r') (request : RankRequest) :
    let body := ((rank request).run r).1.body
    body.totalCount =
        request.candidates.countP (fun x => (reported r' request.query x).any (0.0 < ·)) ∧
      (∀ hit ∈ body.results, ∃ x ∈ request.candidates,
        x.id = hit.document ∧ reported r' request.query x = some hit.score) ∧
      body.count = body.results.length ∧ body.count = min request.wanted body.totalCount ∧
      Ranking.top request.wanted (r'.built request.query.document)
        (request.candidates.map fun x => (x.id, r'.built x.document)) = .ok body.results := by
  intro body
  have left := request.query.valid_profile outcome
  have right := valid_entries outcome request.candidates
  have score (x : Article) : reported r' request.query x =
      some ((request.query.profile outcome).cosine (x.profile outcome)) :=
    reported_eq reached' computes request.query x
  have answer : body = (ranking request (request.query.profile outcome)
      (entries outcome request.candidates)).body :=
    congrArg Reply.body (gives_rank computes request r reached).1
  rw [ranking_of_valid request left right] at answer
  simp only [answer, built_of_reached reached' computes]
  refine ⟨?_, fun hit mem => ?_, trivial, List.length_take, Ranking.top_eq_ok left right _⟩
  · rw [Ranking.length_ranked, entries, List.countP_map]
    refine List.countP_congr fun x mem => ?_
    simp only [score, Option.any_some, Function.comp_apply]
  · obtain ⟨entry, own, document, similarity⟩ :=
      Ranking.exists_of_mem_ranked (List.mem_of_mem_take mem)
    obtain ⟨x, candidate, rfl⟩ := List.mem_map.mp own
    refine ⟨x, candidate, document, ?_⟩
    rw [score, similarity]

theorem rank_agrees_with_compare_nights :
    Factory.builtin.Computes Factory.builtinOutcome ∧ Reached Factory.builtin .builtin ∧
      let body := ((rank .nights).run Registry.builtin).1.body
      body.totalCount = RankRequest.nights.candidates.countP
          (fun x => (reported .builtin .nights x).any (0.0 < ·)) ∧
        body.count = min 10 body.totalCount := by
  have reached : Reached Factory.builtin .builtin := .new 0 1
  obtain ⟨total, -, -, count, -⟩ :=
    rank_agrees_with_compare Factory.builtin_computes reached reached .nights
  exact ⟨Factory.builtin_computes, reached, total, count⟩

end SearchService

end Concordance
