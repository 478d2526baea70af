import Concordance.Analysis.Russian
import Concordance.Proofs.Text.Lowering
import Mathlib.Data.List.Forall2
import Mathlib.Data.Option.Basic

/-!
# Forms of Russian words

The endings are tried one after the other, and the first one that leaves enough letters is taken
off. Since longer endings come first, it is the longest of all those that could be taken off. An
ending that is held back because it leaves too little makes room for a shorter one. A word is
looked at in small letters, with every `ё` written as `е`, so neither the case nor the dots make
a difference.

* `Russian.Leaves`, `Russian.Shortened`: what an ending leaves, and what the longest one leaves.
* `Russian.shortened_stem`: the normal form is what the longest ending leaves.
* `Russian.Alike`, `Russian.foldYo_lowercase_eq`: letters that make no difference.
* `Analyzer.russian_forms_longest`: which words are taken, and what their one normal form is.
-/

namespace Concordance

namespace Russian

variable {c d : Char} {word word' form base ending : List Char}

/-! ## The longest ending -/

/-- The word ends in an ending, and the base that is left of it has enough letters. -/
structure Leaves (word ending base : List Char) : Prop where
  listed : ending ∈ endings
  parts : word = base ++ ending
  enough : minStem ≤ base.length

/-- What is left of a word without the longest ending that leaves enough letters. Without such an
ending the word stays whole. -/
inductive Shortened (word : List Char) : List Char → Prop
  | whole (none : ∀ ending base, ¬ Leaves word ending base) : Shortened word word
  | without {ending base : List Char} (leaves : Leaves word ending base)
      (longest : ∀ other rest, Leaves word other rest → other.length ≤ ending.length) :
      Shortened word base

theorem stemEnding_eq_some_iff :
    stemEnding word ending = some base ↔ word = base ++ ending ∧ minStem ≤ base.length := by
  simp [stemEnding, Option.bind_eq_some_iff, stripSuffix?_eq_some_iff, Option.guard_eq_some']

theorem Leaves.stemEnding_eq (h : Leaves word ending base) : stemEnding word ending = some base :=
  stemEnding_eq_some_iff.mpr ⟨h.parts, h.enough⟩

theorem longer_first : endings.Pairwise fun earlier later => later.length ≤ earlier.length := by
  decide

/-- The first ending that can be taken off is the longest one. -/
theorem shortened_of_findSome? (found : endings.findSome? (stemEnding word) = some form) :
    Shortened word form := by
  obtain ⟨earlier, ending, later, split, applies, blocked⟩ := List.findSome?_eq_some_iff.mp found
  have ordered := longer_first
  rw [split, List.pairwise_append] at ordered
  obtain ⟨-, others, -⟩ := ordered
  obtain ⟨parts, enough⟩ := stemEnding_eq_some_iff.mp applies
  have listed : ending ∈ endings := by
    rw [split]
    exact List.mem_append_right _ List.mem_cons_self
  refine .without ⟨listed, parts, enough⟩ fun other rest leaves => ?_
  have place := leaves.listed
  rw [split, List.mem_append, List.mem_cons] at place
  rcases place with first | rfl | last
  · -- An earlier ending was tried, and it could not be taken off.
    have refused := blocked other first
    rw [leaves.stemEnding_eq] at refused
    cases refused
  · exact Nat.le_refl _
  · exact (List.pairwise_cons.mp others).1 other last

theorem shortened_stem (word : List Char) : Shortened (foldYo word) (stem word) := by
  unfold stem
  cases found : endings.findSome? (stemEnding (foldYo word)) with
  | some form => exact shortened_of_findSome? found
  | none =>
    refine .whole fun ending base leaves => ?_
    have refused := List.findSome?_eq_none_iff.mp found ending leaves.listed
    rw [leaves.stemEnding_eq] at refused
    cases refused

/-- An ending of three letters is held back here, since one letter would be left. A shorter one is
taken off. -/
example : stem "ками".toList = "кам".toList := by decide

namespace Shortened

/-- No ending leaves less. -/
theorem length_le (h : Shortened word form) (leaves : Leaves word ending base) :
    form.length ≤ base.length := by
  cases h with
  | whole none => exact absurd leaves (none ending base)
  | @without longest _ own most =>
    have le := most ending base leaves
    have whole := congrArg List.length (own.parts.symm.trans leaves.parts)
    rw [List.length_append, List.length_append] at whole
    omega

/-- What is left is the beginning of the word. -/
theorem subset (h : Shortened word form) : form ⊆ word := by
  cases h with
  | whole => exact List.Subset.refl word
  | without leaves =>
    rw [leaves.parts]
    exact List.subset_append_left form _

theorem ne_nil (h : Shortened word form) (nonempty : word ≠ []) : form ≠ [] := by
  cases h with
  | whole => exact nonempty
  | without leaves =>
    have positive : 0 < minStem := by decide
    exact List.length_pos_iff.mp (Nat.lt_of_lt_of_le positive leaves.enough)

end Shortened

/-! ## Letters -/

/-- One or more letters from `а` to `я`, or `ё`. -/
def Spelled (word : List Char) : Prop :=
  word ≠ [] ∧ ∀ c ∈ word, 'а' ≤ c ∧ c ≤ 'я' ∨ c = 'ё'

theorem isWord_iff_spelled : isWord word = true ↔ Spelled word := by
  simp [isWord, Spelled, isLetter]

theorem not_exception (letter : isLetter (Text.smallLetter c) = true) : c ≠ 'Σ' ∧ c ≠ 'İ' := by
  constructor
  · rintro rfl
    revert letter
    decide +kernel
  · rintro rfl
    revert letter
    decide +kernel

/-- Words are lower-cased letter by letter. -/
theorem lowercase_eq_map (letters : ∀ c ∈ word, isLetter (Text.smallLetter c) = true) :
    Text.lowercase word = word.map Text.smallLetter :=
  Text.lowercase_eq_map fun c mem => not_exception (letters c mem)

/-- A word is taken if the small letters of all its characters are letters. -/
theorem forall_isLetter_lowercase_iff : (∀ d ∈ Text.lowercase word, isLetter d = true) ↔
    ∀ c ∈ word, isLetter (Text.smallLetter c) = true := by
  constructor
  · intro letters c mem
    obtain ⟨front, rest, subset⟩ := Text.lowercaseChar_subset_lowercaseAfter [] mem
    have small : ∀ d ∈ Text.lowercaseChar front c rest, isLetter d = true :=
      fun d own => letters d (subset own)
    unfold Text.lowercaseChar at small
    -- Neither a small sigma nor an `i` is a letter of this alphabet.
    split at small
    · split at small
      all_goals exact absurd (small _ List.mem_cons_self) (by decide)
    · split at small
      · exact absurd (small _ List.mem_cons_self) (by decide)
      · exact small _ List.mem_cons_self
  · intro letters
    rw [lowercase_eq_map letters]
    exact List.forall_mem_map.mpr letters

/-! ## Letters that make no difference -/

/-- The two letters are the same, apart from their case and from the dots of `ё`. -/
def Alike (c d : Char) : Prop :=
  Text.smallLetter c = Text.smallLetter d ∨
    Text.smallLetter c ∈ ['е', 'ё'] ∧ Text.smallLetter d ∈ ['е', 'ё']

namespace Alike

theorem foldYo_eq (h : Alike c d) :
    foldYo [Text.smallLetter c] = foldYo [Text.smallLetter d] := by
  rcases h with same | ⟨left, right⟩
  · rw [same]
  · have yo : ∀ e ∈ ['е', 'ё'], foldYo [e] = ['е'] :=
      List.forall_mem_cons.mpr ⟨by decide, List.forall_mem_singleton.mpr (by decide)⟩
    rw [yo _ left, yo _ right]

theorem isLetter_eq (h : Alike c d) :
    isLetter (Text.smallLetter c) = isLetter (Text.smallLetter d) := by
  rcases h with same | ⟨left, right⟩
  · rw [same]
  · have yo : ∀ e ∈ ['е', 'ё'], isLetter e = true :=
      List.forall_mem_cons.mpr ⟨by decide, List.forall_mem_singleton.mpr (by decide)⟩
    rw [yo _ left, yo _ right]

end Alike

variable (alike : List.Forall₂ Alike word word')

include alike

theorem isLetter_of_alike (letters : ∀ c ∈ word, isLetter (Text.smallLetter c) = true) :
    ∀ d ∈ word', isLetter (Text.smallLetter d) = true := by
  induction alike with
  | nil => exact nofun
  | cons first _ ih =>
    obtain ⟨own, others⟩ := List.forall_mem_cons.mp letters
    exact List.forall_mem_cons.mpr ⟨first.isLetter_eq ▸ own, ih others⟩

theorem foldYo_map_eq :
    foldYo (word.map Text.smallLetter) = foldYo (word'.map Text.smallLetter) := by
  induction alike with
  | nil => rfl
  | cons first _ ih => exact congrArg₂ List.append first.foldYo_eq ih

/-- A word that differs only so is taken as well, and looks the same with every `ё` as `е`. -/
theorem foldYo_lowercase_eq (spelled : Spelled (Text.lowercase word)) :
    Spelled (Text.lowercase word') ∧
      foldYo (Text.lowercase word') = foldYo (Text.lowercase word) := by
  rw [← isWord_iff_spelled, isWord, Bool.and_eq_true, List.all_eq_true,
    forall_isLetter_lowercase_iff] at spelled ⊢
  obtain ⟨nonempty, letters⟩ := spelled
  have letters' := isLetter_of_alike alike letters
  rw [lowercase_eq_map letters] at nonempty ⊢
  rw [lowercase_eq_map letters', foldYo_map_eq alike]
  refine ⟨⟨?_, letters'⟩, rfl⟩
  cases alike with
  | nil => exact nonempty
  | cons => rfl

end Russian

namespace Analyzer

open Russian

theorem normalForms_russian_of_spelled {word : String}
    (spelled : Spelled (Text.lowercase word.toList)) : russian.normalForms word =
      .ok (.ofList [String.ofList (stem (Text.lowercase word.toList))]) :=
  if_pos (isWord_iff_spelled.mpr spelled)

theorem normalForms_russian_of_not_spelled {word : String}
    (other : ¬ Spelled (Text.lowercase word.toList)) :
    russian.normalForms word = .error (.rejected word .ru) :=
  if_neg fun letters => other (isWord_iff_spelled.mp letters)

/-- The words of Russian are those that are spelled with letters from `а` to `я` and with `ё` when
they are in small letters, and all others are refused. A word has one normal form: it is in small
letters, with every `ё` as `е`, and the longest ending that leaves enough letters is taken off. No
other ending would leave less. A word that differs only in the case of letters, or in `ё` for `е`,
has the same normal form. -/
theorem russian_forms_longest (word : String) :
    let lowered := Text.lowercase word.toList
    (Spelled lowered ∧ ∃ forms form, russian.normalForms word = .ok forms ∧
        forms.toList = [String.ofList form] ∧ Shortened (foldYo lowered) form ∧
        (∀ ending base, Leaves (foldYo lowered) ending base → form.length ≤ base.length) ∧
        ∀ other : String, List.Forall₂ Alike word.toList other.toList →
          russian.normalForms other = .ok forms) ∨
      (¬ Spelled lowered ∧ russian.normalForms word = .error (.rejected word .ru)) := by
  intro lowered
  by_cases spelled : Spelled lowered
  · have shortened := shortened_stem lowered
    refine .inl ⟨spelled, _, stem lowered, normalForms_russian_of_spelled spelled, rfl, shortened,
      fun ending base leaves => shortened.length_le leaves, fun other alike => ?_⟩
    obtain ⟨spelled', same⟩ := foldYo_lowercase_eq alike spelled
    rw [normalForms_russian_of_spelled spelled', stem, same]
    rfl
  · exact .inr ⟨spelled, normalForms_russian_of_not_spelled spelled⟩

end Analyzer

end Concordance
