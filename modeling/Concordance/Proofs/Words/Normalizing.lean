import Concordance.Proofs.Analysis.Served
import Concordance.Proofs.Text.Lowering
import Concordance.Proofs.Text.Stretches

/-!
# Words are in normal form

The words of a text are in small letters, and each of them is one run of word characters. So when
they are joined with spaces, the same words are extracted again, and the same are extracted from
the text in small letters.

* `Words.tokens_join`, `Words.tokens_joined`: the tokens of texts that are joined with spaces.
* `Words.tokens_lowercase`: the tokens of a text in small letters.
* `Words.extract_normalizes`: what is extracted is extracted again.
-/

namespace Concordance

variable {σ : Type}

namespace Words

theorem isWordChar_space : Text.isWordChar ' ' = false := by decide +kernel

/-- A space parts the tokens of a text. -/
theorem tokens_join (left right : String) :
    tokens (left ++ " " ++ right) = tokens left ++ tokens right := by
  have joined : (left ++ " " ++ right).toList = left.toList ++ ' ' :: right.toList := by
    rw [String.toList_append, String.toList_append, List.append_assoc]
    rfl
  rw [tokens, joined, Text.lowercase_append_gap Text.isGap_space,
    Text.runs_append_sep isWordChar_space, List.map_append]
  rfl

/-- Lower-casing a text does not change its tokens. -/
theorem tokens_lowercase (text : String) :
    tokens (.ofList (Text.lowercase text.toList)) = tokens text := by
  rw [tokens, String.toList_ofList, Text.lowercase_lowercase]
  rfl

/-- A token is one run of word characters, without capitals. -/
theorem of_mem_tokens {token text : String} (mem : token ∈ tokens text) :
    (token.toList ≠ [] ∧ ∀ c ∈ token.toList, Text.isWordChar c = true) ∧
      ∀ c ∈ token.toList, Text.isCapital c = false := by
  obtain ⟨run, own, rfl⟩ := List.mem_map.mp mem
  obtain ⟨nonempty, inside⟩ := Text.of_mem_runs own
  rw [String.toList_ofList]
  exact ⟨⟨nonempty, fun c held => (inside c held).1⟩,
    fun c held => Text.isCapital_of_mem_lowercase (inside c held).2⟩

/-- Tokens that are joined with spaces are found again. -/
theorem tokens_joined {words : List String} {text : String}
    (own : ∀ token ∈ words, token ∈ tokens text) : tokens (" ".intercalate words) = words := by
  have small : (words.map String.toList).map Text.lowercase = words.map String.toList := by
    rw [List.map_map]
    refine List.map_congr_left fun token mem => ?_
    exact Text.lowercase_of_forall (of_mem_tokens (own token mem)).2
  have runs : Text.runs Text.isWordChar ([' '].intercalate (words.map String.toList)) =
      words.map String.toList := by
    refine Text.runs_intercalate isWordChar_space (List.forall_mem_map.mpr fun token mem => ?_)
    exact (of_mem_tokens (own token mem)).1
  rw [tokens, String.toList_intercalate, show " ".toList = [' '] from rfl,
    Text.lowercase_intercalate Text.isGap_space, small, runs, List.map_map]
  simp [Function.comp_def]

end Words

/-- Extracting again gives the same words: from the extracted words, joined with spaces, and from the
text in small letters. -/
theorem Words.extract_normalizes (r : Registry σ) (language : Language) (text : String) :
    let words := ((Words.extract text language).run r).1
    let after := ((Words.extract text language).run r).2
    ((Words.extract (" ".intercalate words) language).run after).1 = words ∧
      ((Words.extract (.ofList (Text.lowercase text.toList)) language).run after).1 = words := by
  intro words after
  have found : words = (r.serving language).words text := (uses_extract text).value_eq r
  have served : after.serving language = r.serving language := (uses_extract text).serving_eq r
  have own : ∀ token ∈ words, token ∈ tokens text ∧ (r.serving language).knows token = true := by
    rw [found]
    exact fun token mem => List.mem_filter.mp mem
  rw [(uses_extract _).value_eq, (uses_extract _).value_eq, served, Analyzer.words, Analyzer.words]
  constructor
  · rw [tokens_joined fun token mem => (own token mem).1]
    exact List.filter_eq_self.mpr fun token mem => (own token mem).2
  · rw [tokens_lowercase, found, Analyzer.words]

end Concordance
