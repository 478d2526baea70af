import Concordance.Proofs.Document.Facets

/-!
# When an analyzer is looked up

Words and documents look up the analyzer of their language only if they need it. Whether they
do is a matter of the texts alone: a token that is a number is dismissed before any look-up,
and whatever is looked up later on was looked up already.

* `Looks`, `Looks.bind`: when a computation with one analyzer looks up its language.
* `Words.needsAnalyzer`, `Document.needsAnalyzer`: when a text and a document do.
* `looks_extract`, `looks_profile`: these are the cases.
* `Analyzer.words_congr`, `Analyzer.profile_congr`: in the others any analyzer will do.
-/

namespace Concordance

open Registry

variable {σ α β : Type} {language : Language}

/-- The computation looks up the language if `looked a` holds of the analyzer `a` that serves it,
and does nothing else to the registry. -/
def Looks (language : Language) (m : StateM (Registry σ) α) (looked : Analyzer → Bool) : Prop :=
  ∀ r, (m.run r).2 = if looked (r.serving language) then ((lookup language).run r).2 else r

namespace Looks

variable {m : StateM (Registry σ) α} {k : α → StateM (Registry σ) β} {f : Analyzer → α}
  {p p' : Analyzer → Bool} {q : α → Analyzer → Bool}

theorem pure (x : α) : Looks language (pure x : StateM (Registry σ) α) fun _ => false :=
  fun _ => rfl

/-- What is given and what is left, where the analyzer does not matter for the look-up. -/
theorem run_eq {looked : Bool} (h : Looks language m fun _ => looked) (value : Uses language m f)
    (r : Registry σ) :
    m.run r = (f (r.serving language), if looked then ((lookup language).run r).2 else r) :=
  Prod.ext (value.value_eq r) (h r)

theorem of_eq (h : Looks language m p) (same : ∀ a, p a = p' a) : Looks language m p' :=
  funext same ▸ h

/-- Of two computations, one after the other, the first look-up counts. -/
theorem bind (hm : Looks language m p) (value : Uses language m f)
    (hk : ∀ x, Looks language (k x) (q x)) :
    Looks language (m >>= k) fun a => p a || q (f a) a := by
  intro r
  rw [run_bind, value.value_eq, hk, value.serving_eq, hm r]
  cases first : p (r.serving language) with
  | true => simp only [first, if_true, lookup_lookup, ite_self, Bool.true_or]
  | false => simp only [first, Bool.false_eq_true, if_false, Bool.false_or]

/-- Of the computations for the members of a list, any look-up counts. -/
theorem flatMapM {k : α → StateM (Registry σ) (List β)} {g : α → Analyzer → List β}
    {looked : α → Bool} (hk : ∀ x, Looks language (k x) fun _ => looked x)
    (value : ∀ x, Uses language (k x) (g x)) (l : List α) :
    Looks language (l.flatMapM k) fun _ => l.any looked := by
  induction l with
  | nil => exact .pure []
  | cons x rest ih =>
    rw [List.flatMapM_cons]
    refine ((hk x).bind (value x) fun first => ih.bind (.flatMapM value rest) fun later =>
      .pure (first ++ later)).of_eq fun a => ?_
    rw [Bool.or_false, List.any_cons]

theorem mapM {k : α → StateM (Registry σ) β} {g : α → Analyzer → β} {looked : α → Bool}
    (hk : ∀ x, Looks language (k x) fun _ => looked x) (value : ∀ x, Uses language (k x) (g x))
    (l : List α) : Looks language (l.mapM k) fun _ => l.any looked := by
  induction l with
  | nil => exact .pure []
  | cons x rest ih =>
    rw [List.mapM_cons]
    refine ((hk x).bind (value x) fun first => ih.bind (.mapM value rest) fun later =>
      .pure (first :: later)).of_eq fun a => ?_
    rw [Bool.or_false, List.any_cons]

end Looks

/-! ## Words -/

theorem looks_normalForms (word : String) : Looks language
    (Words.normalForms word language : StateM (Registry σ) Forms) fun _ => true :=
  fun _ => rfl

theorem looks_canonical (word : String) : Looks language
    (Words.canonical word language : StateM (Registry σ) String) fun _ => true :=
  fun _ => rfl

/-- A number is dismissed without a look-up. -/
theorem looks_isNormal (token : String) : Looks language
    (Words.isNormal token language : StateM (Registry σ) Bool) fun _ => !Words.isNumber token := by
  unfold Words.isNormal
  split
  · next number =>
    rw [number]
    exact .pure false
  · next word =>
    rw [Bool.not_eq_true] at word
    rw [word]
    exact (looks_normalForms token).bind (uses_normalForms token) fun _ => .pure _

/-- Whether a text has a token that is more than a number. -/
def Words.needsAnalyzer (text : String) : Bool := (tokens text).any fun token => !isNumber token

theorem looks_keepNormal (tokens : List String) : Looks language
    (Words.keepNormal language tokens : StateM (Registry σ) (List String))
    fun _ => tokens.any fun token => !Words.isNumber token := by
  induction tokens with
  | nil => exact .pure []
  | cons token rest ih =>
    refine ((looks_isNormal token).bind (uses_isNormal token) fun normal =>
      ih.bind (uses_keepNormal rest) fun kept => .pure _).of_eq fun a => ?_
    rw [Bool.or_false, List.any_cons]

theorem looks_extract (text : String) : Looks language
    (Words.extract text language : StateM (Registry σ) (List String))
    fun _ => Words.needsAnalyzer text :=
  looks_keepNormal (Words.tokens text)

namespace Analyzer

theorem knows_of_isNumber (a : Analyzer) {token : String} (number : Words.isNumber token = true) :
    a.knows token = false := by
  rw [knows, number]
  rfl

/-- A text of numbers has no words. -/
theorem words_eq_nil (a : Analyzer) {text : String} (numbers : Words.needsAnalyzer text = false) :
    a.words text = [] := by
  rw [words, List.filter_eq_nil_iff]
  intro token mem
  have number : Words.isNumber token = true := by
    simpa using List.any_eq_false.mp numbers token mem
  rw [a.knows_of_isNumber number]
  exact Bool.false_ne_true

theorem words_congr (a b : Analyzer) {text : String} (numbers : Words.needsAnalyzer text = false) :
    a.words text = b.words text := by
  rw [a.words_eq_nil numbers, b.words_eq_nil numbers]

end Analyzer

/-! ## Documents -/

/-- Whether a field has a text that is to be taken apart and needs an analyzer. -/
def Field.needsAnalyzer (f : Field) : Bool :=
  match f.value with
  | some (.text s) => f.extractWords && Words.needsAnalyzer s
  | _ => false

/-- Whether a field of the document needs an analyzer. -/
def Document.needsAnalyzer (d : Document) : Bool := d.fields.any Field.needsAnalyzer

/-- The forms of the words add no look-up: there are words only where one was made. -/
theorem looks_wordFacets (name text : String) : Looks language
    (wordFacets name text language : StateM (Registry σ) (List (Facet × Float)))
    fun _ => Words.needsAnalyzer text := by
  refine ((looks_extract text).bind (uses_extract text) fun words =>
    (Looks.mapM looks_canonical uses_canonical words).bind (.mapM uses_canonical words)
      fun _ => .pure _).of_eq fun a => ?_
  cases numbers : Words.needsAnalyzer text with
  | true => rfl
  | false =>
    rw [a.words_eq_nil numbers]
    rfl

theorem looks_fieldFacets (f : Field) : Looks language
    (f.facets language : StateM (Registry σ) (List (Facet × Float)))
    fun _ => f.needsAnalyzer := by
  obtain ⟨name, extractWords, value⟩ := f
  cases value with
  | none => exact .pure []
  | some value =>
    cases value with
    | text s =>
      cases extractWords with
      | true => exact looks_wordFacets _ s
      | false => exact .pure _
    | integer | boolean => exact .pure _

/-- A document looks up its language if one of its fields needs an analyzer. -/
theorem looks_profile (d : Document) : Looks d.language
    (d.profile : StateM (Registry σ) Profile) fun _ => d.needsAnalyzer := by
  refine ((Looks.flatMapM looks_fieldFacets uses_fieldFacets d.fields).bind
    (.flatMapM uses_fieldFacets d.fields) fun facets => .pure _).of_eq fun a => ?_
  rw [Bool.or_false, Document.needsAnalyzer]

namespace Analyzer

theorem fieldFacets_congr (a b : Analyzer) {f : Field} (none : f.needsAnalyzer = false) :
    a.fieldFacets f = b.fieldFacets f := by
  obtain ⟨name, extractWords, value⟩ := f
  cases value with
  | none => rfl
  | some value =>
    cases value with
    | text s =>
      cases extractWords with
      | true =>
        show a.wordFacets _ s = b.wordFacets _ s
        rw [wordFacets, wordFacets, a.words_eq_nil none, b.words_eq_nil none]
        rfl
      | false => rfl
    | integer | boolean => rfl

/-- The profile of a document that needs no analyzer is the same for all of them. -/
theorem profile_congr (a b : Analyzer) {d : Document} (none : d.needsAnalyzer = false) :
    a.profile d = b.profile d := by
  have own : ∀ f ∈ d.fields, a.fieldFacets f = b.fieldFacets f := by
    intro f mem
    refine a.fieldFacets_congr b ?_
    rw [← Bool.not_eq_true]
    exact List.any_eq_false.mp none f mem
  rw [profile, profile, facets, facets, List.flatMap_congr own]

end Analyzer

end Concordance
