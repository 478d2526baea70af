import Concordance.Proofs.Analysis.Served
import Concordance.Proofs.Text.Stretches
import Mathlib.Data.String.Basic

/-!
# Words are maximal runs

The words of a text are found by cutting it. What is found are its maximal runs of word
characters, those that are more than a number and that the analyzer has a normal form of, each in
its place and as often as it occurs. The form that stands for such a word is the least of its
normal forms.

* `SortedSet.min?_eq_some`: the least element of a set that has any.
* `Analyzer.knows_iff`, `Analyzer.canonical_of_knows`: words that an analyzer knows, and their forms.
* `Words.extract_maximal_runs`: the words of a text, and what can be said of each.
-/

namespace Concordance

variable {σ : Type}

/-- A set that has any element has a least one. -/
theorem SortedSet.min?_eq_some {forms : SortedSet String} {form : String} (mem : form ∈ forms) :
    ∃ least, forms.min? = some least ∧ least ∈ forms ∧ ∀ other ∈ forms, least ≤ other := by
  obtain ⟨elements, ascending⟩ := forms
  cases elements with
  | nil => cases mem
  | cons least rest =>
    refine ⟨least, rfl, List.mem_cons_self, List.forall_mem_cons.mpr ⟨le_rfl, fun other later => ?_⟩⟩
    exact (compareOfLessAndEq_eq_lt.mp ((List.pairwise_cons.mp ascending).1 other later)).le

namespace Analyzer

variable {a : Analyzer} {word : String}

theorem knows_iff : a.knows word = true ↔ (∃ c ∈ word.toList, Text.isNumericChar c = false) ∧
    ∃ forms form, a.normalForms word = .ok forms ∧ form ∈ forms := by
  rw [knows, Bool.and_eq_true, Bool.not_eq_true', Bool.not_eq_true', Words.isNumber,
    List.all_eq_false]
  refine and_congr (by simp) ?_
  rw [← Bool.not_eq_true, SortedSet.isEmpty_iff, formsOf]
  split
  · next forms normal => simp [normal]
  · next error refused =>
    refine iff_of_false (fun full => full SortedSet.not_mem_empty) ?_
    simp [refused]

/-- The form that stands for a word is the least of its normal forms. -/
theorem canonical_of_knows (known : a.knows word = true) :
    ∃ forms, a.normalForms word = .ok forms ∧ a.canonical word ∈ forms ∧
      ∀ other ∈ forms, a.canonical word ≤ other := by
  obtain ⟨-, forms, form, normal, mem⟩ := knows_iff.mp known
  obtain ⟨least, first, own, le⟩ := SortedSet.min?_eq_some mem
  have canonical : a.canonical word = least := by
    rw [Analyzer.canonical, formsOf, normal, first]
    rfl
  rw [canonical]
  exact ⟨forms, normal, own, le⟩

end Analyzer

/-- Extraction gives the maximal runs of word characters of the text in small letters, in order:
all those that are more than a number and that have a normal form. They remain normal words
afterwards, and the least normal form stands for each of them. -/
theorem Words.extract_maximal_runs (r : Registry σ) (language : Language) (text : String) :
    let a := r.serving language
    let lowered := Text.lowercase text.toList
    let words := ((Words.extract text language).run r).1
    let after := ((Words.extract text language).run r).2
    (∃ stretches, Text.Stretch.InOrder stretches ∧
      (∀ x, x ∈ stretches ↔ x.IsMaximal Text.isWordChar lowered ∧
        (∃ c ∈ x.run, Text.isNumericChar c = false) ∧
        ∃ forms form, a.normalForms (.ofList x.run) = .ok forms ∧ form ∈ forms) ∧
      words = stretches.map fun x => .ofList x.run) ∧
    ∀ word ∈ words, ((Words.isNormal word language).run after).1 = true ∧
      ∃ forms, a.normalForms word = .ok forms ∧
        ((Words.canonical word language).run after).1 ∈ forms ∧
        ∀ other ∈ forms, ((Words.canonical word language).run after).1 ≤ other := by
  intro a lowered words after
  have found : words = a.words text := (uses_extract text).value_eq r
  have served : after.serving language = a := (uses_extract text).serving_eq r
  constructor
  · obtain ⟨stretches, ordered, members, kept⟩ :=
      Text.exists_stretches_filter Text.isWordChar (fun run => a.knows (.ofList run)) lowered
    refine ⟨stretches, ordered, fun x => ?_, ?_⟩
    · rw [members, Analyzer.knows_iff, String.toList_ofList]
    · rw [found, Analyzer.words, Words.tokens, List.filter_map]
      exact (congrArg (List.map String.ofList) kept).trans (List.map_map ..)
  · intro word mem
    rw [found] at mem
    have known : a.knows word = true := (List.mem_filter.mp mem).2
    rw [(uses_isNormal word).value_eq, (uses_canonical word).value_eq, served]
    exact ⟨known, Analyzer.canonical_of_knows known⟩

end Concordance
