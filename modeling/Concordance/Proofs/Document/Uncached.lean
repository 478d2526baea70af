import Concordance.Proofs.Analysis.PureFactory
import Concordance.Proofs.Document.Facets

/-!
# Documents without a cache

What a registry and shared aspects are for can be done without them: the factory is asked anew
whenever an analyzer is needed, a factory that fails stands for an analyzer that knows no word,
and every aspect is made on the spot. This is the reference that caches are measured against.
In front of a factory without memory it gives what one analyzer gives.

* `Factory.analyzer`, `Factory.words`, `Factory.profile`: analyzers, words and profiles, with the
  factory asked each time.
* `Steady`: the result of a computation does not depend on the state.
* `steady_analyzer`, `steady_words`, `steady_profile`: these are the results.
-/

namespace Concordance

variable {σ α : Type}

namespace Factory

variable (factory : Factory σ)

/-- Makes an analyzer. Where that fails, it is the one that knows no word. -/
def analyzer (language : Language) : StateM σ Analyzer := fun world =>
  match factory.create language world with
  | (.ok made, world) => (made.analyzer, world)
  | (.error _, world) => (.noop, world)

/-- Whether a token is a word with a normal form. -/
def isNormal (token : String) (language : Language) : StateM σ Bool := do
  if Words.isNumber token then
    return false
  else
    let a ← factory.analyzer language
    return !(a.formsOf token).isEmpty

/-- The normal words of a text. -/
def words (text : String) (language : Language) : StateM σ (List String) :=
  (Words.tokens text).flatMapM fun token => do
    return if ← factory.isNormal token language then [token] else []

/-- The least normal form of a word, or the word itself if it has none. -/
def canonical (word : String) (language : Language) : StateM σ String := do
  let a ← factory.analyzer language
  return (a.formsOf word).min?.getD word

/-- The weighted facets that a field adds to the profile. -/
def fieldFacets (language : Language) (f : Field) : StateM σ (List (Facet × Float)) :=
  match f.value with
  | none => return []
  | some value =>
    match value, f.extractWords with
    | .text s, true => do
      let words ← factory.words s language
      let forms ← words.mapM fun word => factory.canonical word language
      return formFacets f.aspectName forms
    | value, _ => return [(⟨⟨f.aspectName, value.kind⟩, value⟩, 1.0)]

/-- The profile of a document. -/
def profile (d : Document) : StateM σ Profile := do
  return .ofList (numbered (← d.fields.flatMapM (factory.fieldFacets d.language)))

end Factory

/-! ## In front of a factory without memory -/

/-- From whatever state, the computation gives `x`. -/
abbrev Steady (m : StateM σ α) (x : α) : Prop := Yields (fun _ => True) m x

section

variable {factory : Factory σ} {outcome : Language → Except AnalyzerError Analyzer}
  (computes : factory.Computes outcome)

include computes

theorem steady_analyzer (language : Language) :
    Steady (factory.analyzer language) (inUse outcome language) := by
  intro world _
  have made := computes language world
  refine ⟨?_, trivial⟩
  show (factory.analyzer language world).1 = _
  unfold Factory.analyzer inUse
  rw [← made]
  rcases factory.create language world with ⟨_ | _, _⟩
  · rfl
  · rfl

theorem steady_isNormal (token : String) (language : Language) :
    Steady (factory.isNormal token language) ((inUse outcome language).knows token) := by
  unfold Factory.isNormal Analyzer.knows
  split
  · next number =>
    rw [number]
    exact .pure false
  · next word =>
    rw [Bool.not_eq_true] at word
    rw [word]
    exact (steady_analyzer computes language).bind (.pure _)

theorem steady_words (text : String) (language : Language) :
    Steady (factory.words text language) ((inUse outcome language).words text) := by
  have kept : (inUse outcome language).words text = (Words.tokens text).flatMap fun token =>
      if (inUse outcome language).knows token then [token] else [] := by
    rw [Analyzer.words]
    induction Words.tokens text with
    | nil => rfl
    | cons token rest ih =>
      rw [List.flatMap_cons, List.filter_cons, ih]
      split <;> rfl
  rw [kept]
  exact Yields.flatMapM (fun token => (steady_isNormal computes token language).bind (.pure _)) _

theorem steady_canonical (word : String) (language : Language) :
    Steady (factory.canonical word language) ((inUse outcome language).canonical word) :=
  (steady_analyzer computes language).bind (.pure _)

theorem steady_fieldFacets (language : Language) (f : Field) :
    Steady (factory.fieldFacets language f) ((inUse outcome language).fieldFacets f) := by
  obtain ⟨name, extractWords, value⟩ := f
  cases value with
  | none => exact .pure []
  | some value =>
    cases value with
    | text s =>
      cases extractWords with
      | true =>
        exact (steady_words computes s language).bind
          ((Yields.mapM (fun word => steady_canonical computes word language) _).bind (.pure _))
      | false => exact .pure _
    | integer | boolean => exact .pure _

/-- The profile that is built without a cache is that of the analyzer in use. -/
theorem steady_profile (d : Document) :
    Steady (factory.profile d) ((inUse outcome d.language).profile d) :=
  (Yields.flatMapM (steady_fieldFacets computes d.language) d.fields).bind (.pure _)

end

end Concordance
