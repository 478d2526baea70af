import Concordance.Proofs.Analysis.Alphabets
import Concordance.Proofs.Document.Frequencies
import Concordance.Proofs.Profile.Apart
import Concordance.Proofs.Service.BagOfWords

/-!
# Articles in two languages

The words of an English article are counted by forms in one alphabet, and those of a Russian
article by forms in another one. So the two never share a facet of a word. What they can share is
their author and their year, with weight one each, and nothing else makes them similar.

* `Article.data`, `Article.agreements`: authors and years, and how many of them agree.
* `Analyzer.Writes.facet_cases`: the facets of an article are those of its words and of its data.
* `Article.AlikeInData`: two articles share their data alone.
* `Article.alikeInData_of_apart`: they do if their analyzers write in different alphabets.
* `Indexer.alike_in_data_across_languages`: as those of this library do.
-/

namespace Concordance

open Binary64 Registry

/-- The facet of an author. -/
def Facet.ofAuthor (author : String) : Facet := ⟨⟨"author", .text⟩, .text author⟩

/-- The facet of a year. -/
def Facet.ofYear (year : Int64) : Facet := ⟨⟨"year", .integer⟩, .integer year⟩

variable {x y : Article} {f : Facet}

/-! ## Data -/

namespace Article

/-- The facets of the author and of the year, as far as they are known. -/
def data (x : Article) : List Facet :=
  (x.author.map Facet.ofAuthor).toList ++ (x.year.map Facet.ofYear).toList

/-- How many of the two are known of both articles and equal. -/
def agreements (x y : Article) : ℕ :=
  (if x.author.isSome ∧ x.author = y.author then 1 else 0) +
    (if x.year.isSome ∧ x.year = y.year then 1 else 0)

theorem agreements_le (x y : Article) : x.agreements y ≤ 2 := by
  unfold agreements
  split <;> split <;> decide

theorem mem_data : f ∈ x.data ↔
    (∃ author, x.author = some author ∧ f = .ofAuthor author) ∨
      ∃ year, x.year = some year ∧ f = .ofYear year := by
  simp [data, eq_comm]

theorem kind_of_mem_data (mem : f ∈ x.data) : f.aspect.kind ≠ .word := by
  rcases mem_data.mp mem with ⟨author, -, rfl⟩ | ⟨year, -, rfl⟩ <;> nofun

theorem nodup_data (x : Article) : x.data.Nodup := by
  obtain ⟨id, language, title, body, author, year⟩ := x
  cases author <;> cases year <;> simp [data, Facet.ofAuthor, Facet.ofYear]

theorem ofAuthor_mem_data {author : String} :
    .ofAuthor author ∈ x.data ↔ x.author = some author := by
  simp [mem_data, Facet.ofAuthor, Facet.ofYear]

theorem ofYear_mem_data {year : Int64} : .ofYear year ∈ x.data ↔ x.year = some year := by
  simp [mem_data, Facet.ofAuthor, Facet.ofYear]

/-- As many data are common as agree. -/
theorem length_common_data (x y : Article) :
    (x.data.filter (· ∈ y.data)).length = x.agreements y := by
  have parts : x.data = (x.author.map Facet.ofAuthor).toList ++ (x.year.map Facet.ofYear).toList :=
    rfl
  rw [parts, List.filter_append, List.length_append, agreements]
  congr 1
  · cases x.author with
    | none => rfl
    | some author =>
      by_cases same : y.author = some author <;>
        simp [ofAuthor_mem_data, same, @eq_comm _ _ y.author]
  · cases x.year with
    | none => rfl
    | some year =>
      by_cases same : y.year = some year <;> simp [ofYear_mem_data, same, @eq_comm _ _ y.year]

/-! ## Facets of an article -/

/-- The facets of an article: those of the words of its title and of its body, and its data. -/
theorem facets_document (a : Analyzer) (x : Article) : a.facets x.document.fields =
    a.wordFacets "title" x.title ++ (a.wordFacets "body" x.body ++ x.data.map (·, 1.0)) := by
  have named : ∀ name ∈ ["title", "body", "author", "year"], ∀ words value,
      Field.aspectName ⟨name, words, value⟩ = name := by
    intro name mem words value
    have proper : ∀ name ∈ ["title", "body", "author", "year"], Text.trim name.toList ≠ [] := by
      decide
    exact Field.aspectName_mk (proper name mem) words value
  obtain ⟨id, language, title, body, author, year⟩ := x
  cases author <;> cases year <;>
    simp [document, Analyzer.facets, Analyzer.fieldFacets, data, Facet.ofAuthor, Facet.ofYear,
      FacetValue.kind, named]

theorem mem_facets_profile {a : Analyzer} : f ∈ (a.profile x.document).weights.facets ↔
    f ∈ (a.wordFacets "title" x.title).map (·.1) ∨
      f ∈ (a.wordFacets "body" x.body).map (·.1) ∨ f ∈ x.data := by
  rw [Analyzer.mem_facets_profile, ← List.mem_map, facets_document, List.map_append,
    List.map_append, List.map_map, List.mem_append, List.mem_append]
  simp

theorem kind_of_mem_wordFacets {a : Analyzer} {name text : String} {entry : Facet × Float}
    (mem : entry ∈ a.wordFacets name text) : entry.1.aspect.kind = .word := by
  obtain ⟨form, -, rfl⟩ := mem_formFacets.mp mem
  rfl

/-- The data have the weight one. -/
theorem total_data (a : Analyzer) (mem : f ∈ x.data) :
    (a.profile x.document).weights.total f = Float.ofNat 1 := by
  have words (name text : String) : Weights.occurrences (a.wordFacets name text) f = [] := by
    refine Weights.occurrences_eq_nil_iff.mpr fun entry own same => kind_of_mem_data mem ?_
    rw [← same, kind_of_mem_wordFacets own]
  have data : Weights.occurrences (x.data.map (·, 1.0)) f = [1.0] := by
    rw [Weights.occurrences, List.filter_map]
    simp only [Function.comp_def, List.filter_eq, List.count_eq_one_of_mem x.nodup_data mem]
    rfl
  have one : (0 + 1.0 : Float) = Float.ofNat 1 := by decide +kernel
  rw [Analyzer.profile, weights_ofList_numbered, Weights.total_merge, facets_document,
    Weights.occurrences_append, Weights.occurrences_append, words, words, data]
  exact one

end Article

namespace Analyzer

variable {letter : Char → Prop} {a : Analyzer}

theorem Writes.of_mem_wordFacets (writes : a.Writes letter) {name text : String}
    (mem : f ∈ (a.wordFacets name text).map (·.1)) :
    ∃ form, f = .ofWord name form ∧ WrittenIn letter form := by
  obtain ⟨entry, contributed, rfl⟩ := List.mem_map.mp mem
  obtain ⟨form, occurs, rfl⟩ := mem_formFacets.mp contributed
  obtain ⟨word, own, rfl⟩ := List.mem_map.mp occurs
  exact ⟨_, rfl, writes.canonical own⟩

/-- A facet of an article is one of a word, with a form in the alphabet, or one of its data. -/
theorem Writes.facet_cases (writes : a.Writes letter)
    (mem : f ∈ (a.profile x.document).weights.facets) :
    (∃ name form, f = .ofWord name form ∧ WrittenIn letter form) ∨ f ∈ x.data := by
  rcases Article.mem_facets_profile.mp mem with title | body | data
  · exact .inl ⟨_, writes.of_mem_wordFacets title⟩
  · exact .inl ⟨_, writes.of_mem_wordFacets body⟩
  · exact .inr data

end Analyzer

/-! ## What is shared -/

namespace Article

/-- Two profiles of articles share the data of both and no more, and the data alone make them
similar. -/
structure AlikeInData (x y : Article) (p q : Profile) : Prop where
  /-- No facet of a word is in both. -/
  noWord : ∀ c ∈ p.components, ∀ c' ∈ q.components, c.facet = c'.facet →
    c.facet.aspect.kind ≠ .word
  /-- A facet is in both just if it is an author or a year of both articles. -/
  shared : ∀ f, ((∃ c ∈ p.components, c.facet = f) ∧ ∃ c ∈ q.components, c.facet = f) ↔
    f ∈ x.data ∧ f ∈ y.data
  /-- The scalar product counts the data that agree. -/
  product : ∀ d, p.dot q = .ok d → (d == Float.ofNat (x.agreements y)) = true
  /-- If none of them agree, there is no similarity, in neither direction. -/
  similarity : x.agreements y = 0 →
    ∀ s, p.similarity q = .ok s ∨ q.similarity p = .ok s → (s == 0.0) = true

variable {letter letter' : Char → Prop} {a b : Analyzer} (left : a.Writes letter)
  (right : b.Writes letter') (apart : ∀ form, WrittenIn letter form → ¬ WrittenIn letter' form)

include left right apart

theorem mem_facets_of_apart : f ∈ (a.profile x.document).weights.facets ∧
    f ∈ (b.profile y.document).weights.facets ↔ f ∈ x.data ∧ f ∈ y.data := by
  constructor
  · rintro ⟨here, there⟩
    rcases left.facet_cases here with ⟨name, form, rfl, written⟩ | data
    · rcases right.facet_cases there with ⟨name', form', same, written'⟩ | data'
      · rw [(Facet.ofWord_inj.mp same).2] at written
        exact absurd written' (apart _ written)
      · exact absurd rfl (kind_of_mem_data data')
    · rcases right.facet_cases there with ⟨name', form', rfl, -⟩ | data'
      · exact absurd rfl (kind_of_mem_data data)
      · exact ⟨data, data'⟩
  · rintro ⟨data, data'⟩
    exact ⟨mem_facets_profile.mpr (.inr (.inr data)), mem_facets_profile.mpr (.inr (.inr data'))⟩

theorem common_of_apart :
    ((a.profile x.document).weights.common (b.profile y.document).weights).Perm
      (x.data.filter (· ∈ y.data)) := by
  have nodup := Weights.nodup_common (b := (b.profile y.document).weights)
    (Profile.distinct_weights (a.profile x.document))
  refine (List.perm_ext_iff_of_nodup nodup (x.nodup_data.filter _)).mpr fun f => ?_
  rw [Weights.mem_common, mem_facets_of_apart left right apart, List.mem_filter,
    decide_eq_true_iff]

/-- The scalar product counts the data that agree. -/
theorem product_of_apart (x y : Article) :
    ((a.profile x.document).product (b.profile y.document) ==
      Float.ofNat (x.agreements y)) = true := by
  rw [← length_common_data]
  refine Profile.product_of_ones (common_of_apart left right apart) ?_ fun f mem => ?_
  · rw [length_common_data]
    exact (x.agreements_le y).trans (by decide)
  · obtain ⟨here, there⟩ := List.mem_filter.mp mem
    exact ⟨total_data a here, total_data b (of_decide_eq_true there)⟩

/-- No facet is shared if no data agree. -/
theorem shares_of_apart (none : x.agreements y = 0) :
    (a.profile x.document).shares (b.profile y.document) = false := by
  have common := common_of_apart left right apart (x := x) (y := y)
  rw [← length_common_data, List.length_eq_zero_iff] at none
  rw [none, List.perm_nil] at common
  by_contra shared
  rw [Bool.not_eq_false, ← Profile.products_ne_nil_iff] at shared
  have terms := Weights.products_perm float_mul_comm (a.profile x.document).distinct_weights
    (b.profile y.document).distinct_weights
  rw [Weights.commonTerms, common] at terms
  exact shared terms.eq_nil

theorem alikeInData_of_apart (x y : Article) :
    x.AlikeInData y (a.profile x.document) (b.profile y.document) := by
  have shared : ∀ f, ((∃ c ∈ (a.profile x.document).components, c.facet = f) ∧
      ∃ c ∈ (b.profile y.document).components, c.facet = f) ↔ f ∈ x.data ∧ f ∈ y.data := by
    intro f
    rw [← Profile.mem_facets_weights, ← Profile.mem_facets_weights]
    exact mem_facets_of_apart left right apart
  refine ⟨fun c own c' own' same => ?_, shared, fun d product => ?_, fun none s computed => ?_⟩
  · exact kind_of_mem_data ((shared c.facet).mp ⟨⟨c, own, rfl⟩, c', own', same.symm⟩).1
  · obtain ⟨-, -, rfl⟩ := (Profile.checked_dot _ _).eq_ok_iff.mp product
    exact product_of_apart left right apart x y
  · have cosine (valid : (a.profile x.document).Valid) (valid' : (b.profile y.document).Valid) :=
      Profile.cosine_of_apart valid valid' (shares_of_apart left right apart none)
    rcases computed with computed | computed
    · obtain ⟨valid, valid', rfl⟩ := (Profile.checked_similarity _ _).eq_ok_iff.mp computed
      exact cosine valid valid'
    · obtain ⟨valid', valid, rfl⟩ := (Profile.checked_similarity _ _).eq_ok_iff.mp computed
      rw [Profile.cosine_comm]
      exact cosine valid valid'

end Article

/-! ## English and Russian -/

namespace Indexer

theorem built_eq_of_reached {s : Indexer Nat} (reached : Reached Factory.builtin s.registry)
    (x : Article) : s.built x.document = x.profile Factory.builtinOutcome := by
  rw [s.built_eq, reached.serving_eq Factory.builtin_computes]
  rfl

/-- The forms of English words are texts of small English letters, those of Russian words texts of
small Russian letters, and each form is a word again. So an English and a Russian article share no
facet of a word, whatever their texts are, but for their data they have nothing in common, and
without common data they are not similar. They can always be compared. -/
theorem alike_in_data_across_languages :
    Analyzer.english.Writes English.Small ∧ Analyzer.russian.Writes Russian.Small ∧
      ∀ s s' : Indexer Nat, Reached Factory.builtin s.registry →
        Reached Factory.builtin s'.registry →
        ∀ x y : Article, x.language = .en → y.language = .ru →
          x.AlikeInData y (s.built x.document) (s'.built y.document) ∧
            ∃ score, (s.built x.document).similarity (s'.built y.document) = .ok score := by
  refine ⟨Analyzer.writes_english, Analyzer.writes_russian, ?_⟩
  intro s s' reached reached' x y en ru
  rw [built_eq_of_reached reached, built_eq_of_reached reached']
  refine ⟨?_, ?_⟩
  · rw [Article.profile, Article.profile, en, ru]
    exact Article.alikeInData_of_apart Analyzer.writes_english Analyzer.writes_russian
      (fun _ => Analyzer.no_common_form) x y
  · exact ⟨_, (Profile.checked_similarity _ _).eq_ok_iff.mpr
      ⟨x.valid_profile _, y.valid_profile _, rfl⟩⟩

end Indexer

/-- A Russian article on lamps, by somebody else and of another year. -/
def Article.lampsInRussian : Article :=
  ⟨4, .ru, "Лампы", "Ночью горели лампы и lamps.", some "Анна", some 2001⟩

theorem Indexer.alike_in_data_across_languages_lamps :
    let s := Indexer.new .builtin
    Reached Factory.builtin s.registry ∧ Article.lamps.language = .en ∧
      Article.lampsInRussian.language = .ru ∧
      Article.lamps.AlikeInData .lampsInRussian (s.built Article.lamps.document)
        (s.built Article.lampsInRussian.document) ∧
      ∃ score, (s.built Article.lamps.document).similarity
        (s.built Article.lampsInRussian.document) = .ok score ∧ (score == 0.0) = true := by
  intro s
  have reached : Reached Factory.builtin s.registry := .new 0 1
  obtain ⟨alike, score, computed⟩ := alike_in_data_across_languages.2.2 s s reached reached
    .lamps .lampsInRussian rfl rfl
  have none : Article.lamps.agreements .lampsInRussian = 0 := by decide +kernel
  exact ⟨reached, rfl, rfl, alike, score, computed, alike.similarity none score (.inl computed)⟩

end Concordance
