import Concordance.Proofs.Analysis.EnglishForms
import Concordance.Proofs.Analysis.PureFactory
import Concordance.Proofs.Analysis.RussianForms
import Concordance.Proofs.Words.MaximalRuns

/-!
# Alphabets

An analyzer writes its forms in the small letters of one alphabet, whatever word they are forms
of, and it takes each of them for a word again. The forms that stand for the words of a text are
written so as well. The two analyzers of this library have no letter in common, and so no form.

* `Analyzer.Writes`: the forms of an analyzer are written in an alphabet.
* `Analyzer.writes_english`, `Analyzer.writes_russian`: the alphabets of this library.
* `Analyzer.Writes.canonical`: the forms that stand for the words of a text.
* `Analyzer.no_common_form`: no text is written in both alphabets.
-/

namespace Concordance

/-- A text of one or more letters of an alphabet. -/
structure WrittenIn (letter : Char → Prop) (text : String) : Prop where
  nonempty : text ≠ ""
  letters : ∀ c ∈ text.toList, letter c

/-- The small letters of English. -/
def English.Small (c : Char) : Prop := 'a' ≤ c ∧ c ≤ 'z'

/-- The small letters of Russian, but for `ё`, which comes after `я`. -/
def Russian.Small (c : Char) : Prop := 'а' ≤ c ∧ c ≤ 'я'

theorem writtenIn_ofList {letter : Char → Prop} {form : List Char} (nonempty : form ≠ [])
    (letters : ∀ c ∈ form, letter c) : WrittenIn letter (.ofList form) := by
  refine ⟨fun empty => nonempty ?_, by rwa [String.toList_ofList]⟩
  simpa using congrArg String.toList empty

/-- No text is written in two alphabets without a common letter. -/
theorem WrittenIn.apart {letter letter' : Char → Prop} {text : String}
    (h : WrittenIn letter text) (h' : WrittenIn letter' text) :
    ∃ c, letter c ∧ letter' c := by
  have nonempty : text.toList ≠ [] := fun empty => h.nonempty (String.toList_eq_nil_iff.mp empty)
  obtain ⟨c, mem⟩ := List.exists_mem_of_ne_nil _ nonempty
  exact ⟨c, h.letters c mem, h'.letters c mem⟩

/-! ## English -/

namespace English

variable {word : List Char}

theorem stem_ne_nil (nonempty : word ≠ []) : stem word ≠ [] := by
  by_cases exception : word = "sses".toList
  · rw [exception, stem_sses]
    decide
  · rcases (formOf_stem exception).whole_or_long with whole | long
    · rwa [whole]
    · have positive : 0 < minStem := by decide
      exact List.length_pos_iff.mp (positive.trans_le long)

/-- What is written in small letters is a word. -/
theorem spelled_of_writtenIn {word : String} (h : WrittenIn Small word) : Spelled word :=
  ⟨h.nonempty, fun c mem => .inl (h.letters c mem)⟩

end English

/-! ## Russian -/

namespace Russian

variable {c : Char} {word : List Char}

/-- Among the small letters there are no capitals. -/
theorem isCapital_of_small (small : Small c) : Text.isCapital c = false := by
  have apart : ∀ r ∈ Text.capitals, r.last < 'а'.toNat ∨ 'я'.toNat < r.first := by
    decide +kernel
  have lower : 'а'.toNat ≤ c.toNat := small.1
  have upper : c.toNat ≤ 'я'.toNat := small.2
  rw [Text.isCapital_eq_false_iff]
  intro r mem
  rw [Text.CaseRun.holds, Bool.and_eq_false_iff, Bool.and_eq_false_iff]
  rcases apart r mem with below | above
  · exact .inl (.inr (decide_eq_false (by omega)))
  · exact .inl (.inl (decide_eq_false (by omega)))

/-- With every `ё` as `е`, a word is written in the small letters. -/
theorem small_of_mem_foldYo (spelled : Spelled word) (mem : c ∈ foldYo word) : Small c := by
  obtain ⟨d, own, rfl⟩ := List.mem_map.mp mem
  split
  · exact ⟨by decide, by decide⟩
  · next other => exact (spelled.2 d own).resolve_right other

theorem foldYo_ne_nil (spelled : Spelled word) : foldYo word ≠ [] :=
  mt List.map_eq_nil_iff.mp spelled.1

/-- What is written in small letters is a word, and it is not changed by lower-casing. -/
theorem spelled_of_writtenIn {word : String} (h : WrittenIn Small word) :
    Spelled (Text.lowercase word.toList) := by
  rw [Text.lowercase_of_forall fun c mem => isCapital_of_small (h.letters c mem)]
  exact ⟨fun empty => h.nonempty (String.toList_eq_nil_iff.mp empty),
    fun c mem => .inl (h.letters c mem)⟩

end Russian

/-! ## Forms -/

namespace Analyzer

theorem normalForms_english_of_spelled {word : String} (spelled : English.Spelled word) :
    english.normalForms word =
      .ok (.ofList [String.ofList (English.stem (Text.asciiLowercase word.toList))]) :=
  if_pos (English.isWord_iff_spelled.mpr spelled)

theorem normalForms_english_of_not_spelled {word : String} (other : ¬ English.Spelled word) :
    english.normalForms word = .error (.rejected word .en) :=
  if_neg fun letters => other (English.isWord_iff_spelled.mp letters)

/-- All normal forms are written in an alphabet, and the analyzer takes them for words again. -/
def Writes (a : Analyzer) (letter : Char → Prop) : Prop :=
  ∀ word forms, a.normalForms word = .ok forms → ∀ form ∈ forms,
    WrittenIn letter form ∧ ∃ forms', a.normalForms form = .ok forms'

open English in
theorem writes_english : english.Writes English.Small := by
  intro word forms normal form mem
  by_cases spelled : Spelled word
  · have lowered : Text.asciiLowercase word.toList ≠ [] :=
      mt List.map_eq_nil_iff.mp fun empty => spelled.1 (String.toList_eq_nil_iff.mp empty)
    rw [normalForms_english_of_spelled spelled, Except.ok.injEq] at normal
    rw [← normal, SortedSet.mem_ofList, List.mem_singleton] at mem
    have written : WrittenIn Small form := by
      rw [mem]
      exact writtenIn_ofList (stem_ne_nil lowered) (letters_stem (letters_asciiLowercase spelled))
    exact ⟨written, _, normalForms_english_of_spelled (spelled_of_writtenIn written)⟩
  · rw [normalForms_english_of_not_spelled spelled] at normal
    cases normal

open Russian in
theorem writes_russian : russian.Writes Russian.Small := by
  intro word forms normal form mem
  by_cases spelled : Spelled (Text.lowercase word.toList)
  · rw [normalForms_russian_of_spelled spelled, Except.ok.injEq] at normal
    rw [← normal, SortedSet.mem_ofList, List.mem_singleton] at mem
    have shortened := shortened_stem (Text.lowercase word.toList)
    have written : WrittenIn Small form := by
      rw [mem]
      exact writtenIn_ofList (shortened.ne_nil (foldYo_ne_nil spelled)) fun c own =>
        small_of_mem_foldYo spelled (shortened.subset own)
    exact ⟨written, _, normalForms_russian_of_spelled (spelled_of_writtenIn written)⟩
  · rw [normalForms_russian_of_not_spelled spelled] at normal
    cases normal

/-- The forms that stand for the words of a text are written in the alphabet. -/
theorem Writes.canonical {a : Analyzer} {letter : Char → Prop} (h : a.Writes letter)
    {word text : String} (mem : word ∈ a.words text) : WrittenIn letter (a.canonical word) := by
  obtain ⟨forms, normal, own, -⟩ := canonical_of_knows (List.mem_filter.mp mem).2
  exact (h word forms normal _ own).1

/-- No form is written in both alphabets. -/
theorem no_common_form {form : String} (english : WrittenIn English.Small form) :
    ¬ WrittenIn Russian.Small form := by
  intro russian
  obtain ⟨c, ⟨-, below⟩, above, -⟩ := english.apart russian
  have order : 'z' < 'а' := by decide
  exact absurd (order.trans_le above) (not_lt.mpr below)

end Analyzer

end Concordance
