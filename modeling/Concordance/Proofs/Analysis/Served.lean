import Concordance.Analysis.Words

/-!
# Computations with one analyzer

What is done with the words of one language asks the registry for the analyzer of that
language and for nothing else, and it is asked for the same one each time. So the result
is a function of the analyzer, and the registry is left as it was or as after one look-up.

* `Registry.lookup_cases`: all that a look-up can do.
* `Registry.serving`: the analyzer that serves a language.
* `Uses`, `Uses.bind`: what a computation with one analyzer gives and leaves.
* `Analyzer.words`, `Analyzer.canonical`: the words of a text and the forms that stand for them.
* `uses_extract`, `uses_canonical`: these are what the registry is used for.
* `Analyzer.length_words_le`: a bound for the number of words.
-/

namespace Concordance

variable {σ α β : Type} {language : Language}

theorem run_pure (x : α) (s : σ) : (pure x : StateM σ α).run s = (x, s) := rfl

theorem run_bind (m : StateM σ α) (k : α → StateM σ β) (s : σ) :
    (m >>= k).run s = (k (m.run s).1).run (m.run s).2 := rfl

/-- What is kept of an outcome. -/
def Instance.ofOutcome (fallback : Instance) : Except AnalyzerError Instance → Instance
  | .ok made => made
  | .error _ => fallback

namespace Registry

/-- A look-up finds an instance and changes nothing, or it asks the factory and keeps what
comes of it. -/
theorem lookup_cases (r : Registry σ) (language : Language) :
    (∃ i, r.cache.get? language = some i ∧ (lookup language).run r = (i, r)) ∨
      (r.cache.get? language = none ∧
        let made := r.factory.create language r.world
        let i := Instance.ofOutcome r.fallback made.1
        (lookup language).run r =
          (i, { r with cache := r.cache.insert language i, world := made.2 })) := by
  cases found : r.cache.get? language with
  | some i => exact .inl ⟨i, rfl, lookup_of_cached found⟩
  | none =>
    refine .inr ⟨rfl, ?_⟩
    show lookup language r = _
    rw [lookup, found]
    rfl

/-- The analyzer that serves a language. -/
def serving (r : Registry σ) (language : Language) : Analyzer :=
  ((lookup language).run r).1.analyzer

/-- To look up a language again gives and changes nothing new. -/
theorem lookup_lookup (r : Registry σ) (language : Language) :
    (lookup language).run ((lookup language).run r).2 = (lookup language).run r :=
  lookup_of_cached (get?_cache_lookup r language)

theorem serving_lookup (r : Registry σ) (language : Language) :
    serving ((lookup language).run r).2 language = r.serving language := by
  rw [serving, lookup_lookup, serving]

end Registry

open Registry

/-- The computation gives `value a`, where `a` is the analyzer that serves the language, and
looks up that language or nothing. -/
structure Uses (language : Language) (m : StateM (Registry σ) α) (value : Analyzer → α) : Prop where
  value_eq : ∀ r, (m.run r).1 = value (r.serving language)
  state_eq : ∀ r, (m.run r).2 = r ∨ (m.run r).2 = ((lookup language).run r).2

namespace Uses

theorem pure (x : α) : Uses language (pure x : StateM (Registry σ) α) fun _ => x :=
  ⟨fun _ => rfl, fun _ => .inl rfl⟩

variable {m : StateM (Registry σ) α} {k : α → StateM (Registry σ) β} {f : Analyzer → α}
  {g : α → Analyzer → β}

/-- The language is served by the same analyzer afterwards. -/
theorem serving_eq (h : Uses language m f) (r : Registry σ) :
    (m.run r).2.serving language = r.serving language := by
  rcases h.state_eq r with same | looked
  · rw [same]
  · rw [looked, serving_lookup]

/-- Two computations with the analyzer, one after the other, are one. -/
theorem bind (hm : Uses language m f) (hk : ∀ x, Uses language (k x) (g x)) :
    Uses language (m >>= k) fun a => g (f a) a := by
  have run (r : Registry σ) : (m >>= k).run r = (k (f (r.serving language))).run (m.run r).2 := by
    rw [run_bind, hm.value_eq r]
  refine ⟨fun r => ?_, fun r => ?_⟩
  · rw [run, (hk _).value_eq, hm.serving_eq]
  · rw [run]
    rcases hm.state_eq r with same | looked
    · rw [same]
      exact (hk _).state_eq r
    · -- The second look-up finds what the first one left.
      rw [looked]
      have later := (hk (f (r.serving language))).state_eq ((lookup language).run r).2
      rw [lookup_lookup, or_self] at later
      exact .inr later

/-- And so are as many as there are members of a list. -/
theorem mapM (hk : ∀ x, Uses language (k x) (g x)) (l : List α) :
    Uses language (l.mapM k) fun a => l.map (g · a) := by
  induction l with
  | nil => exact .pure []
  | cons x rest ih =>
    rw [List.mapM_cons]
    exact (hk x).bind fun first => ih.bind fun later => .pure (first :: later)

theorem flatMapM {k : α → StateM (Registry σ) (List β)} {g : α → Analyzer → List β}
    (hk : ∀ x, Uses language (k x) (g x)) (l : List α) :
    Uses language (l.flatMapM k) fun a => l.flatMap (g · a) := by
  induction l with
  | nil => exact .pure []
  | cons x rest ih =>
    rw [List.flatMapM_cons]
    exact (hk x).bind fun first => ih.bind fun later => .pure (first ++ later)

end Uses

/-! ## Words -/

namespace Analyzer

/-- Whether a token is more than a number and has a normal form. -/
def knows (a : Analyzer) (token : String) : Bool :=
  !Words.isNumber token && !(a.formsOf token).isEmpty

/-- The words of a text that an analyzer knows, in order and with repetitions. -/
def words (a : Analyzer) (text : String) : List String := (Words.tokens text).filter a.knows

/-- The form that stands for a word. -/
def canonical (a : Analyzer) (word : String) : String := (a.formsOf word).min?.getD word

end Analyzer

theorem uses_normalForms (word : String) : Uses language
    (Words.normalForms word language : StateM (Registry σ) Forms) fun a => a.formsOf word :=
  ⟨fun _ => rfl, fun _ => .inr rfl⟩

theorem uses_isNormal (token : String) : Uses language
    (Words.isNormal token language : StateM (Registry σ) Bool) fun a => a.knows token := by
  unfold Words.isNormal Analyzer.knows
  split
  · next number =>
    simp only [number, Bool.not_true, Bool.false_and]
    exact .pure false
  · next word =>
    simp only [word, Bool.not_false, Bool.true_and]
    exact (uses_normalForms token).bind fun forms => .pure (!forms.isEmpty)

theorem uses_keepNormal (tokens : List String) : Uses language
    (Words.keepNormal language tokens : StateM (Registry σ) (List String))
    fun a => tokens.filter a.knows := by
  induction tokens with
  | nil => exact .pure []
  | cons token rest ih =>
    simp only [List.filter_cons]
    exact (uses_isNormal token).bind fun normal => ih.bind fun kept => .pure _

/-- Extraction keeps the words that the analyzer of the language knows. -/
theorem uses_extract (text : String) : Uses language
    (Words.extract text language : StateM (Registry σ) (List String)) fun a => a.words text :=
  uses_keepNormal (Words.tokens text)

theorem uses_canonical (word : String) : Uses language
    (Words.canonical word language : StateM (Registry σ) String) fun a => a.canonical word :=
  (uses_normalForms word).bind fun forms => .pure (forms.min?.getD word)

/-! ## How many words there are -/

theorem length_pieces_le (isSep : Char → Bool) (text : List Char) :
    (Text.pieces isSep text).length ≤ text.length + 1 := by
  induction text with
  | nil => exact Nat.le_refl 1
  | cons c rest ih =>
    show (Text.consPiece isSep c (Text.pieces isSep rest)).length ≤ _
    rw [List.length_cons]
    unfold Text.consPiece
    split
    · rw [List.length_cons]
      omega
    · split
      · next cut =>
        rw [cut, List.length_cons] at ih
        rw [List.length_cons]
        omega
      · rw [List.length_singleton]
        omega

theorem length_lowercaseAfter_le (before text : List Char) :
    (Text.lowercaseAfter before text).length ≤ 2 * text.length := by
  induction text generalizing before with
  | nil => exact Nat.zero_le _
  | cons c rest ih =>
    have small : (Text.lowercaseChar before c rest).length ≤ 2 := by
      unfold Text.lowercaseChar
      repeat' split
      all_goals simp
    have later := ih (c :: before)
    rw [Text.lowercaseAfter_cons, List.length_append, List.length_cons]
    omega

/-- A text has at most two words for each of its characters, and one more. -/
theorem Analyzer.length_words_le (a : Analyzer) (text : String) :
    (a.words text).length ≤ 2 * text.length + 1 := by
  have cut := length_pieces_le (fun c => !Text.isWordChar c) (Text.lowercase text.toList)
  have lowered : (Text.lowercase text.toList).length ≤ 2 * text.toList.length :=
    length_lowercaseAfter_le [] text.toList
  rw [String.length_toList] at lowered
  calc (a.words text).length ≤ (Words.tokens text).length := List.length_filter_le _ _
    _ = (Text.runs Text.isWordChar (Text.lowercase text.toList)).length := List.length_map _
    _ ≤ (Text.pieces (fun c => !Text.isWordChar c) (Text.lowercase text.toList)).length :=
      List.length_filter_le _ _
    _ ≤ 2 * text.length + 1 := by omega

end Concordance
