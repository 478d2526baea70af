import Concordance.Proofs.Document.Counts
import Concordance.Proofs.Document.Sharing
import Concordance.Proofs.Words.Normalizing

/-!
# What the fields of a document contribute

A profile is built by offering it one component after the other, and an offer is not followed up:
nobody asks whether the component was taken. It always is, since the components are numbered, so
the profile holds what the fields contribute, in their order, and nothing gets lost. Below `2 ^ 32`
words a form and `2 ^ 32` components, no counter of 32 bits is at its end.

* `Registry.words`, `Registry.form`: the words of a text and the form of a word, in a registry.
* `Registry.words_join`: the words of texts that are joined.
* `Field.Contributes`: what a field contributes.
* `Profile.TakesAll`: a profile takes all that is offered.
* `Indexer.built_takesAll`: profiles of documents do.
* `Indexer.unknown_named_and_listed_twice`: a counter that comes back to zero.
-/

namespace Concordance

variable {σ : Type}

/-! ## Names -/

/-- A field is of the unknown aspect if it has a blank name, or if that is its name. -/
theorem Field.aspectName_eq_unknown_iff (f : Field) : f.aspectName = Aspect.unknownName ↔
    Text.trim f.name.toList = [] ∨ f.name = Aspect.unknownName := by
  rw [Text.trim_eq_nil_iff, aspectName]
  by_cases blank : Text.allBlank f.name.toList = true <;> simp [blank]

theorem Field.aspectName_of_named {f : Field} (named : Text.trim f.name.toList ≠ []) :
    f.aspectName = f.name := by
  rw [ne_eq, Text.trim_eq_nil_iff] at named
  rw [aspectName, if_neg named]

theorem Field.aspectName_mk {name : String} (named : Text.trim name.toList ≠ [])
    (extractWords : Bool) (value : Option FacetValue) :
    aspectName ⟨name, extractWords, value⟩ = name :=
  aspectName_of_named named

/-! ## Contributions -/

namespace Registry

/-- The words of a text, as a registry extracts them. -/
def words (r : Registry σ) (language : Language) (text : String) : List String :=
  ((Words.extract text language).run r).1

/-- The form that stands for a word, as a registry gives it. -/
def form (r : Registry σ) (language : Language) (word : String) : String :=
  ((Words.canonical word language).run r).1

/-- The forms that stand for the words of a text, in order and with repetitions. -/
def forms (r : Registry σ) (language : Language) (text : String) : List String :=
  (r.words language text).map (r.form language)

theorem words_eq (r : Registry σ) (language : Language) (text : String) :
    r.words language text = (r.serving language).words text :=
  (uses_extract text).value_eq r

theorem form_eq (r : Registry σ) (language : Language) :
    r.form language = (r.serving language).canonical :=
  funext fun word => (uses_canonical word).value_eq r

theorem forms_eq (r : Registry σ) (language : Language) (text : String) :
    r.forms language text = ((r.serving language).words text).map (r.serving language).canonical := by
  rw [forms, words_eq, form_eq]

/-- Between two texts with a space in between nothing happens. -/
theorem words_join (r : Registry σ) (language : Language) (left right : String) :
    r.words language (left ++ " " ++ right) =
      r.words language left ++ r.words language right := by
  simp only [words_eq, Analyzer.words, Words.tokens_join, List.filter_append]

theorem forms_join (r : Registry σ) (language : Language) (left right : String) :
    r.forms language (left ++ " " ++ right) =
      r.forms language left ++ r.forms language right := by
  rw [forms, words_join, List.map_append]
  rfl

end Registry

/-- What a field contributes to a profile: nothing if it has no value; if it has a text that is
taken apart, each form of a word once, where it comes first, with the number of its words; and any
other value as it is, with weight one. -/
inductive Field.Contributes (r : Registry σ) (language : Language) (f : Field) :
    List (Facet × Float) → Prop
  | nothing (absent : f.value = none) : f.Contributes r language []
  | words {text : String} (value : f.value = some (.text text)) (apart : f.extractWords = true) :
      f.Contributes r language ((r.forms language text).eraseDups.map fun form =>
        (⟨⟨f.aspectName, .word⟩, .text form⟩, Float.ofNat ((r.forms language text).count form)))
  | whole {value : FacetValue} (present : f.value = some value)
      (kept : f.extractWords = true → value.kind ≠ .text) :
      f.Contributes r language [(⟨⟨f.aspectName, value.kind⟩, value⟩, 1.0)]

theorem contributes_fieldFacets (r : Registry σ) (language : Language) {f : Field}
    (few : ∀ text, f.value = some (.text text) → f.extractWords = true →
      ∀ form, (((r.serving language).words text).map (r.serving language).canonical).count form <
        2 ^ 32) : f.Contributes r language ((r.serving language).fieldFacets f) := by
  rcases (r.serving language).fieldFacets_cases f with ⟨absent, none⟩ |
    ⟨text, value, apart, words⟩ | ⟨value, present, kept, whole⟩
  · rw [none]
    exact .nothing absent
  · have facets : f.Contributes r language _ := .words value apart
    rw [r.forms_eq] at facets
    rw [words, Analyzer.wordFacets, formFacets_eq (few text value apart)]
    exact facets
  · rw [whole]
    exact .whole present kept

/-! ## Profiles -/

/-- The profile was built by offering it the weighted facets one after the other. Each of them was
taken when its turn came, and they are numbered from zero on. -/
structure Profile.TakesAll (p : Profile) (facets : List (Facet × Float)) : Prop where
  built : p = .ofList (numbered facets)
  taken : ∀ before c after, numbered facets = before ++ c :: after →
    (Profile.ofList before).has c = false
  numbers : p.components.map (·.tieBreak) = List.range facets.length
  entries : p.components.map (fun c => (c.facet, c.weight)) = facets

theorem takesAll_ofList_numbered (facets : List (Facet × Float)) :
    (Profile.ofList (numbered facets)).TakesAll facets := by
  refine ⟨rfl, fun before c after split => ?_, ?_, ?_⟩
  · have distinct := pairwise_numbered facets
    rw [split] at distinct
    have earlier : (Profile.ofList before).components = before :=
      foldl_insert_of_pairwise (p := .empty) (List.pairwise_append.mp distinct).1
    rw [← earlier] at distinct
    exact has_eq_false_of_pairwise distinct
  · rw [components_ofList_numbered, tieBreaks_numbered]
  · rw [components_ofList_numbered, entries_numbered]

namespace Indexer

/-- The profile that an indexer builds for a document. -/
def built (s : Indexer σ) (d : Document) : Profile := ((profile d).run s).1

/-- It is what one analyzer gives. -/
theorem built_eq (s : Indexer σ) (d : Document) :
    s.built d = (s.registry.serving d.language).profile d :=
  (mirrors_profile d s).1.trans (s.registry.built_eq d)

/-- The profile of a document takes all that its fields contribute, field by field. A field is of
the aspect with its own name, and of the unknown aspect if it has a blank name. The words of a text
with one form are fewer than `2 ^ 32`, and so are the components: then their numbers have 32
bits. -/
theorem built_takesAll (s : Indexer σ) (d : Document)
    (few : (s.registry.serving d.language).CountsBelow d) (small : (s.built d).size < 2 ^ 32) :
    (∃ parts, List.Forall₂ (Field.Contributes s.registry d.language) d.fields parts ∧
      (s.built d).TakesAll parts.flatten) ∧
    (∀ c ∈ (s.built d).components, c.tieBreak < 2 ^ 32) ∧
    ∀ f ∈ d.fields, (f.aspectName = Aspect.unknownName ↔
        Text.trim f.name.toList = [] ∨ f.name = Aspect.unknownName) ∧
      (Text.trim f.name.toList ≠ [] → f.aspectName = f.name) := by
  have takes : (s.built d).TakesAll ((s.registry.serving d.language).facets d.fields) := by
    rw [built_eq]
    exact takesAll_ofList_numbered _
  refine ⟨⟨d.fields.map (s.registry.serving d.language).fieldFacets, ?_, takes⟩, fun c mem => ?_,
    fun f _ => ⟨f.aspectName_eq_unknown_iff, Field.aspectName_of_named⟩⟩
  · rw [List.forall₂_map_right_iff, List.forall₂_same]
    exact fun f mem => contributes_fieldFacets s.registry d.language (few f mem)
  · have number : c.tieBreak ∈ (s.built d).components.map (·.tieBreak) := List.mem_map_of_mem mem
    have size := congrArg List.length takes.numbers
    rw [List.length_map, List.length_range] at size
    rw [takes.numbers, List.mem_range, ← size] at number
    exact number.trans small

end Indexer

/-- Two texts of one name, where three words have one form. -/
def Document.twoVerses : Document :=
  ⟨7, .en, [⟨"verse", true, some (.text "The lamps, the lamp")⟩,
    ⟨"verse", true, some (.text "a lamp at night")⟩]⟩

theorem Document.countsBelow_twoVerses (a : Analyzer) : a.CountsBelow .twoVerses := by
  refine a.countsBelow_of_short fun f field text value _ => ?_
  simp only [twoVerses, List.mem_cons, List.not_mem_nil, or_false] at field
  rcases field with rfl | rfl <;> cases value <;> decide

theorem Indexer.built_takesAll_twoVerses :
    let s := Indexer.new Registry.builtin
    (s.registry.serving .en).CountsBelow .twoVerses ∧ (s.built .twoVerses).size = 6 ∧
      ∃ parts, List.Forall₂ (Field.Contributes s.registry .en) Document.twoVerses.fields parts ∧
        (s.built .twoVerses).TakesAll parts.flatten := by
  intro s
  have few := Document.countsBelow_twoVerses (s.registry.serving .en)
  have size : (s.built .twoVerses).size = 6 := by decide +kernel
  have small : (s.built .twoVerses).size < 2 ^ 32 := by
    rw [size]
    decide
  exact ⟨few, size, (s.built_takesAll .twoVerses few small).1⟩

/-! ## Beyond the bounds -/

/-- A text with a word as often as wanted. -/
def again (word : String) : ℕ → String
  | 0 => ""
  | n + 1 => again word n ++ " " ++ word

theorem Registry.forms_again {r : Registry σ} {language : Language} {word form : String}
    (one : r.forms language word = [form]) (n : ℕ) :
    r.forms language (again word n) = List.replicate n form := by
  induction n with
  | zero =>
    have none : Words.tokens "" = [] := by decide
    rw [again, forms, words_eq, Analyzer.words, none]
    rfl
  | succ n ih => rw [again, forms_join, ih, one, List.replicate_succ']

theorem Registry.forms_lamps (n : ℕ) :
    Registry.builtin.forms .en (again "lamp" n) = List.replicate n "lamp" :=
  forms_again (by decide +kernel) n

theorem eraseDups_replicate_succ (n : ℕ) (s : String) :
    (List.replicate (n + 1) s).eraseDups = [s] := by
  simp [List.replicate_succ, List.eraseDups_cons]

/-- A document of one text. -/
def Document.verse (text : String) : Document := ⟨7, .en, [⟨"verse", true, some (.text text)⟩]⟩

theorem Indexer.entries_verse (s : Indexer σ) (text : String) :
    (s.built (.verse text)).components.map (fun c => (c.facet, c.weight)) =
      formFacets "verse" (s.registry.forms .en text) := by
  have named :=
    Field.aspectName_mk (show Text.trim "verse".toList ≠ [] by decide) true (some (.text text))
  rw [built_eq, Analyzer.profile, components_ofList_numbered, entries_numbered,
    Registry.forms_eq, Analyzer.facets, Document.verse, List.flatMap_singleton,
    Analyzer.fieldFacets, named]
  rfl

/-- A document with a field that goes by the name of the unknown aspect. -/
def Document.selfUnknown : Document := ⟨1, .en, [⟨"UNKNOWN", false, some (.boolean true)⟩]⟩

/-- A blank name is not the only one that makes a field one of the unknown aspect. And if a word
occurs once more than `2 ^ 32` times, its form is listed twice, with the weight one. -/
theorem Indexer.unknown_named_and_listed_twice :
    let s := Indexer.new Registry.builtin
    let lamps := again "lamp" (2 ^ 32 + 1)
    (¬ ∀ f ∈ Document.selfUnknown.fields, ∀ c ∈ (s.built .selfUnknown).components,
        (c.facet.aspect.name = Aspect.unknownName ↔ Text.trim f.name.toList = [])) ∧
      (s.registry.forms .en lamps).eraseDups = ["lamp"] ∧
      (s.built (.verse lamps)).components.map (fun c => (c.facet, c.weight)) =
        [(.ofWord "verse" "lamp", 1.0), (.ofWord "verse" "lamp", 1.0)] := by
  intro s lamps
  have forms : s.registry.forms .en lamps = List.replicate (2 ^ 32 + 1) "lamp" :=
    Registry.forms_lamps _
  have twice : Tally.listings (2 ^ 32 + 1) = 2 := by
    unfold Tally.listings
    omega
  refine ⟨by decide +kernel, ?_, ?_⟩
  · rw [forms]
    exact eraseDups_replicate_succ _ _
  · rw [entries_verse, forms, formFacets_replicate, twice, Analyzer.one_eq_ofNat]
    rfl

end Concordance
