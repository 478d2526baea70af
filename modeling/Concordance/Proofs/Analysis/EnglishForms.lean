import Concordance.Analysis.English
import Mathlib.Data.Option.Basic

/-!
# Forms of English words

An English word is taken apart into a stem and an ending in one of a few ways, all of which keep
at least three letters, or it stays whole. There is one word with which this is not so: of `sses`
two letters are left.

* `English.FormOf`: the ways in which a form comes from a word.
* `English.formOf_stem`: the normal form comes about in one of them.
* `Analyzer.english_forms_iff`: which words are taken, and what their one normal form is.
* `Analyzer.english_sses`: the exception.
-/

namespace Concordance

namespace English

variable {word form base : List Char}

/-- One or more letters from `a` to `z`, small or capital. -/
def Spelled (word : String) : Prop :=
  word ≠ "" ∧ ∀ c ∈ word.toList, 'a' ≤ c ∧ c ≤ 'z' ∨ 'A' ≤ c ∧ c ≤ 'Z'

/-- The ways in which a form comes from a word in small letters: the word stays whole, an ending is
taken off, or a plural is changed. Where something is taken off, enough letters are left. -/
inductive FormOf : List Char → List Char → Prop
  | whole (word : List Char) : FormOf word word
  | ending {base ending : List Char} (left : minStem ≤ base.length)
      (listed : ending ∈ ["ing", "ed", "ly", "es", "s"].map String.toList) :
      FormOf (base ++ ending) base
  | ies {base : List Char} (left : minStem ≤ (base ++ "y".toList).length) :
      FormOf (base ++ "ies".toList) (base ++ "y".toList)
  | sses {base : List Char} (left : minStem ≤ (base ++ "ss".toList).length) :
      FormOf (base ++ "sses".toList) (base ++ "ss".toList)

/-! ## The rules, one by one -/

theorem stemEnding_eq_some_iff {ending : List Char} :
    stemEnding word ending = some base ↔ word = base ++ ending ∧ minStem ≤ base.length := by
  simp [stemEnding, Option.bind_eq_some_iff, stripSuffix?_eq_some_iff, Option.guard_eq_some']

theorem stemIes_eq_some_iff : stemIes word = some form ↔
    ∃ base, word = base ++ "ies".toList ∧ minStem - 1 ≤ base.length ∧ base ++ "y".toList = form := by
  simp [stemIes, Option.bind_eq_some_iff, stripSuffix?_eq_some_iff, Option.guard_eq_some']

theorem stemSses_eq_some_iff : stemSses word = some form ↔
    ∃ base, word = base ++ "sses".toList ∧ base ++ "ss".toList = form := by
  simp [stemSses, Option.bind_eq_some_iff, stripSuffix?_eq_some_iff]

theorem formOf_of_stemIes (applies : stemIes word = some form) : FormOf word form := by
  obtain ⟨base, rfl, enough, rfl⟩ := stemIes_eq_some_iff.mp applies
  refine .ies ?_
  rw [List.length_append]
  exact Nat.add_le_add_right enough 1

theorem formOf_of_stemSses (applies : stemSses word = some form) (other : word ≠ "sses".toList) :
    FormOf word form := by
  obtain ⟨base, rfl, rfl⟩ := stemSses_eq_some_iff.mp applies
  -- The rule itself asks for no letters ahead of the ending.
  have nonempty : base ≠ [] := by
    rintro rfl
    exact other rfl
  refine .sses ?_
  rw [List.length_append]
  exact Nat.add_le_add_right (List.length_pos_iff.mpr nonempty) 2

theorem formOf_of_stemEnding {ending : List Char} (applies : stemEnding word ending = some form)
    (listed : ending ∈ ["ing", "ed", "ly", "es", "s"].map String.toList) : FormOf word form := by
  obtain ⟨rfl, left⟩ := stemEnding_eq_some_iff.mp applies
  exact .ending left listed

theorem formOf_of_verbEndings (applies : verbEndings.findSome? (stemEnding word) = some form) :
    FormOf word form := by
  obtain ⟨ending, mem, applies⟩ := List.exists_of_findSome?_eq_some applies
  exact formOf_of_stemEnding applies (List.mem_append_left ["es".toList, "s".toList] mem)

/-- A side condition does not change the base that is left. -/
theorem eq_some_of_guarded {left : Option (List Char)} {condition : List Char → Prop}
    [DecidablePred condition]
    (applies : (do let base ← left; guard (condition base); return base) = some form) :
    left = some form := by
  simp only [Option.bind_eq_bind, Option.bind_eq_some_iff, Option.pure_def,
    Option.some.injEq] at applies
  obtain ⟨base, found, -, -, rfl⟩ := applies
  exact found

theorem formOf_of_stemEs (applies : stemEs word = some form) : FormOf word form :=
  formOf_of_stemEnding (eq_some_of_guarded applies) (by decide)

theorem formOf_of_stemS (applies : stemS word = some form) : FormOf word form :=
  formOf_of_stemEnding (eq_some_of_guarded applies) (by decide)

/-- All words but one are stemmed in one of these ways. -/
theorem formOf_stem (other : word ≠ "sses".toList) : FormOf word (stem word) := by
  unfold stem
  cases applies : (stemIes word <|> stemSses word <|> verbEndings.findSome? (stemEnding word) <|>
    stemEs word <|> stemS word) with
  | none => exact .whole word
  | some form =>
    simp only [Option.orElse_eq_orElse, Option.orElse_eq_or, Option.or_eq_some_iff] at applies
    rcases applies with applies | ⟨-, applies | ⟨-, applies | ⟨-, applies | ⟨-, applies⟩⟩⟩⟩
    · exact formOf_of_stemIes applies
    · exact formOf_of_stemSses applies other
    · exact formOf_of_verbEndings applies
    · exact formOf_of_stemEs applies
    · exact formOf_of_stemS applies

theorem ss_subset_sses : "ss".toList ⊆ "sses".toList := List.subset_append_left _ "es".toList

/-- Where a form is not the word, it has enough letters. -/
theorem FormOf.whole_or_long (h : FormOf word form) : form = word ∨ minStem ≤ form.length := by
  cases h with
  | whole => exact .inl rfl
  | ending left | ies left | sses left => exact .inr left

/-- The form is made of letters of the word, but for the `y` and the `s` of changed plurals. -/
theorem FormOf.forall_mem {p : Char → Prop} (h : FormOf word form) (all : ∀ c ∈ word, p c)
    (hy : p 'y') : ∀ c ∈ form, p c := by
  cases h with
  | whole => exact all
  | ending => exact (List.forall_mem_append.mp all).1
  | ies =>
    exact List.forall_mem_append.mpr ⟨(List.forall_mem_append.mp all).1, by simpa using hy⟩
  | sses =>
    obtain ⟨base, ending⟩ := List.forall_mem_append.mp all
    exact List.forall_mem_append.mpr ⟨base, fun c mem => ending c (ss_subset_sses mem)⟩

theorem stem_sses : stem "sses".toList = "ss".toList := by decide

/-- That word is the only exception. -/
theorem formOf_stem_iff : FormOf word (stem word) ↔ word ≠ "sses".toList := by
  refine ⟨?_, formOf_stem⟩
  rintro h rfl
  rw [stem_sses] at h
  rcases h.whole_or_long with same | long
  · revert same
    decide
  · revert long
    decide

/-! ## Letters -/

theorem isLetter_iff {c : Char} :
    isLetter c = true ↔ 'a' ≤ c ∧ c ≤ 'z' ∨ 'A' ≤ c ∧ c ≤ 'Z' := by
  unfold isLetter Char.isAlpha Char.isUpper Char.isLower
  simp only [Bool.or_eq_true, Bool.and_eq_true, decide_eq_true_eq]
  exact or_comm

theorem isWord_iff_spelled {word : String} : isWord word.toList = true ↔ Spelled word := by
  simp [isWord, Spelled, isLetter_iff]

theorem toLower_letter {c : Char} (letter : 'a' ≤ c ∧ c ≤ 'z' ∨ 'A' ≤ c ∧ c ≤ 'Z') :
    'a' ≤ c.toLower ∧ c.toLower ≤ 'z' := by
  have codes : 'a'.val.toNat = 97 ∧ 'z'.val.toNat = 122 ∧ 'A'.val.toNat = 65 ∧
      'Z'.val.toNat = 90 ∧ ('a'.val - 'A'.val).toNat = 32 := by decide
  simp only [Char.le_def, UInt32.le_iff_toNat_le] at letter ⊢
  unfold Char.toLower
  split
  · next capital =>
    simp only [UInt32.le_iff_toNat_le, ge_iff_le] at capital
    show _ ≤ (c.val + ('a'.val - 'A'.val)).toNat ∧ (c.val + ('a'.val - 'A'.val)).toNat ≤ _
    rw [UInt32.toNat_add]
    omega
  · next small =>
    simp only [UInt32.le_iff_toNat_le, ge_iff_le] at small
    omega

theorem letters_asciiLowercase {word : String} (spelled : Spelled word) :
    ∀ c ∈ Text.asciiLowercase word.toList, 'a' ≤ c ∧ c ≤ 'z' := by
  intro c mem
  obtain ⟨d, own, rfl⟩ := List.mem_map.mp mem
  exact toLower_letter (spelled.2 d own)

theorem letters_stem (small : ∀ c ∈ word, 'a' ≤ c ∧ c ≤ 'z') :
    ∀ c ∈ stem word, 'a' ≤ c ∧ c ≤ 'z' := by
  by_cases exception : word = "sses".toList
  · rw [exception] at small ⊢
    rw [stem_sses]
    exact fun c mem => small c (ss_subset_sses mem)
  · exact (formOf_stem exception).forall_mem small (by decide)

end English

namespace Analyzer

open English

/-- The words of English are those of letters from `a` to `z`, and all others are refused. A word
has one normal form, in small letters, which comes from it in one of the known ways if and only if
it is not the one exception. -/
theorem english_forms_iff (word : String) :
    let lowered := Text.asciiLowercase word.toList
    (Spelled word ∧ ∃ forms form, english.normalForms word = .ok forms ∧
        forms.toList = [String.ofList form] ∧ (∀ c ∈ form, 'a' ≤ c ∧ c ≤ 'z') ∧
        (FormOf lowered form ↔ lowered ≠ "sses".toList)) ∨
      (¬ Spelled word ∧ english.normalForms word = .error (.rejected word .en)) := by
  intro lowered
  by_cases spelled : Spelled word
  · refine .inl ⟨spelled, .ofList [String.ofList (stem lowered)], stem lowered, ?_, rfl, ?_,
      formOf_stem_iff⟩
    · exact if_pos (isWord_iff_spelled.mpr spelled)
    · exact letters_stem (letters_asciiLowercase spelled)
  · exact .inr ⟨spelled, if_neg fun letters => spelled (isWord_iff_spelled.mp letters)⟩

/-- Two letters are left of the exception, which is none of the known ways. -/
theorem english_sses : Spelled "sses" ∧ ¬ ∃ forms form, english.normalForms "sses" = .ok forms ∧
    forms.toList = [String.ofList form] ∧ FormOf (Text.asciiLowercase "sses".toList) form := by
  refine ⟨isWord_iff_spelled.mp (by decide), ?_⟩
  rintro ⟨forms, form, normal, one, h⟩
  obtain rfl : .ofList ["ss"] = forms := Except.ok.inj normal
  obtain rfl : "ss".toList = form := by simpa using congrArg String.toList (List.cons.inj one).1
  exact formOf_stem_iff.mp h rfl

end Analyzer

end Concordance
