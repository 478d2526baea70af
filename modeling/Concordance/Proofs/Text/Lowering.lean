import Concordance.Text.Lowercase

/-!
# Lower-casing

No small letter is a capital, so a text in small letters is not changed any more. The form of a
sigma depends on what stands around it, but no further than up to a gap: a character, such as a
space, that is neither cased nor ignored. Texts with a gap between them are lower-cased
independently of each other.

* `isCapital`, `isCapital_of_mem_lowercase`: no capital is left in a text that is lower-cased.
* `lowercase_of_forall`, `lowercase_lowercase`: without capitals, a text stays as it is.
* `lowercase_eq_map`: without the two exceptions, each character is replaced on its own.
* `IsGap`, `lowercase_append_gap`: what is on one side of a gap does not matter for the other.
-/

namespace Concordance.Text

variable {c d : Char} {before after text : List Char}

/-! ## Capitals -/

/-- The runs of capitals of the table, and the capital that becomes two characters. -/
def capitals : List CaseRun := ⟨0x130, 0x130, 1, 0x69⟩ :: caseRuns

/-- Whether `c` is one of these capitals. -/
def isCapital (c : Char) : Bool := capitals.any (·.holds c.toNat)

/-- Whether the small letters of `r` lie beside the capitals of `r'`, or between them where
capitals and small letters take turns. -/
def CaseRun.apart (r r' : CaseRun) : Bool :=
  (r.target + (r.last - r.first)).blt r'.first || r'.last.blt r.target ||
    (r.step == 2 || r.first == r.last) && r'.step == 2 && (r.target + r'.first) % 2 == 1

theorem CaseRun.holds_eq_false_of_apart {r r' : CaseRun} (apart : r.apart r' = true) {code : Nat}
    (held : r.holds code = true) : r'.holds (r.target + (code - r.first)) = false := by
  rw [← Bool.not_eq_true]
  intro held'
  simp only [holds, Bool.and_eq_true, decide_eq_true_eq, beq_iff_eq] at held held'
  simp only [CaseRun.apart, Bool.or_eq_true, Bool.and_eq_true, Nat.blt_eq, beq_iff_eq] at apart
  rcases apart with (below | above) | ⟨⟨even | single, even'⟩, odd⟩
  · omega
  · omega
  · rw [even] at held
    rw [even'] at held'
    omega
  · rw [even'] at held'
    omega

/-- No small letter of the table is a capital. -/
theorem apart_capitals : (caseRuns.all fun r => capitals.all fun r' => r.apart r') = true := by
  -- Runs are compared here, and no single letters, of which there are far more.
  decide +kernel

theorem isCapital_eq_false_iff : isCapital c = false ↔ ∀ r ∈ capitals, r.holds c.toNat = false := by
  simp [isCapital]

/-- Only capitals have a small letter other than themselves. -/
theorem smallLetter_of_not_capital (h : isCapital c = false) : smallLetter c = c := by
  have none : caseRuns.find? (·.holds c.toNat) = none := by
    refine List.find?_eq_none.mpr fun r mem held => ?_
    rw [isCapital_eq_false_iff.mp h r (List.mem_cons_of_mem _ mem)] at held
    cases held
  rw [smallLetter, none]

/-- Small letters are no capitals. The one exception is treated apart: its small letter is not
in the table. -/
theorem isCapital_smallLetter (h : c ≠ 'İ') : isCapital (smallLetter c) = false := by
  rw [isCapital_eq_false_iff]
  unfold smallLetter
  cases found : caseRuns.find? (·.holds c.toNat) with
  | some r =>
    have held := List.find?_some found
    have apart := List.all_eq_true.mp apart_capitals r (List.mem_of_find?_eq_some found)
    intro r' mem'
    show r'.holds (Char.ofNat (r.target + (c.toNat - r.first))).toNat = false
    unfold Char.ofNat
    by_cases valid : (r.target + (c.toNat - r.first)).isValidChar
    · rw [dif_pos valid]
      exact r.holds_eq_false_of_apart (List.all_eq_true.mp apart r' mem') held
    · rw [dif_neg valid]
      revert r'
      decide +kernel
  | none =>
    refine List.forall_mem_cons.mpr ⟨?_, fun r mem => ?_⟩
    · rw [← Bool.not_eq_true]
      intro held
      simp only [CaseRun.holds, Bool.and_eq_true, decide_eq_true_eq] at held
      exact h (Char.toNat_inj.mp (Nat.le_antisymm held.1.2 held.1.1))
    · rw [← Bool.not_eq_true]
      exact List.find?_eq_none.mp found r mem

theorem ne_of_not_capital (h : isCapital c = false) (capital : isCapital d = true) : c ≠ d := by
  rintro rfl
  rw [h] at capital
  cases capital

theorem lowercaseChar_of_not_capital (h : isCapital c = false) (before after : List Char) :
    lowercaseChar before c after = [c] := by
  rw [lowercaseChar, if_neg (ne_of_not_capital h (by decide +kernel)),
    if_neg (ne_of_not_capital h (by decide +kernel)), smallLetter_of_not_capital h]

theorem isCapital_of_mem_lowercaseChar (h : d ∈ lowercaseChar before c after) :
    isCapital d = false := by
  unfold lowercaseChar at h
  split at h
  · split at h
    all_goals
      rw [List.mem_singleton.mp h]
      decide +kernel
  · split at h
    · simp only [List.mem_cons, List.not_mem_nil, or_false] at h
      rcases h with rfl | rfl
      all_goals decide +kernel
    · next undotted =>
      rw [List.mem_singleton.mp h]
      exact isCapital_smallLetter undotted

theorem isCapital_of_mem_lowercaseAfter (h : d ∈ lowercaseAfter before text) :
    isCapital d = false := by
  induction text generalizing before with
  | nil => cases h
  | cons c rest ih =>
    rw [lowercaseAfter_cons, List.mem_append] at h
    rcases h with here | later
    · exact isCapital_of_mem_lowercaseChar here
    · exact ih later

/-- No capital is left in a text that is lower-cased. -/
theorem isCapital_of_mem_lowercase (h : c ∈ lowercase text) : isCapital c = false :=
  isCapital_of_mem_lowercaseAfter h

theorem lowercaseAfter_of_forall (h : ∀ c ∈ text, isCapital c = false) (before : List Char) :
    lowercaseAfter before text = text := by
  induction text generalizing before with
  | nil => rfl
  | cons c rest ih =>
    obtain ⟨first, others⟩ := List.forall_mem_cons.mp h
    rw [lowercaseAfter_cons, lowercaseChar_of_not_capital first, ih others]
    rfl

/-- A text without capitals is not changed. -/
theorem lowercase_of_forall (h : ∀ c ∈ text, isCapital c = false) : lowercase text = text :=
  lowercaseAfter_of_forall h []

theorem lowercase_lowercase (text : List Char) : lowercase (lowercase text) = lowercase text :=
  lowercase_of_forall fun _ => isCapital_of_mem_lowercase

/-! ## Letter by letter -/

/-- The small form of each character stands in the text that is lower-cased. -/
theorem lowercaseChar_subset_lowercaseAfter (before : List Char) (h : c ∈ text) :
    ∃ front rest, lowercaseChar front c rest ⊆ lowercaseAfter before text := by
  induction text generalizing before with
  | nil => cases h
  | cons d rest ih =>
    rw [lowercaseAfter_cons]
    rcases List.mem_cons.mp h with rfl | later
    · exact ⟨before, rest, List.subset_append_left _ _⟩
    · obtain ⟨front, beyond, subset⟩ := ih (d :: before) later
      exact ⟨front, beyond, List.Subset.trans subset (List.subset_append_right _ _)⟩

/-- Without the two exceptions every character is replaced on its own. -/
theorem lowercase_eq_map (h : ∀ c ∈ text, c ≠ 'Σ' ∧ c ≠ 'İ') :
    lowercase text = text.map smallLetter := by
  suffices each : ∀ before, lowercaseAfter before text = text.map smallLetter from each []
  induction text with
  | nil => exact fun _ => rfl
  | cons c rest ih =>
    intro before
    obtain ⟨⟨sigma, dotted⟩, others⟩ := List.forall_mem_cons.mp h
    rw [lowercaseAfter_cons, lowercaseChar, if_neg sigma, if_neg dotted, ih others]
    rfl

/-! ## Gaps -/

/-- A character that is no capital, and with which a look around a sigma ends without a letter. -/
structure IsGap (c : Char) : Prop where
  uncased : isCased c = false
  seen : isCaseIgnorable c = false
  small : isCapital c = false

theorem isGap_space : IsGap ' ' := ⟨by decide +kernel, by decide +kernel, by decide +kernel⟩

namespace IsGap

variable (gap : IsGap c)

include gap

theorem startsCased_append (front rest : List Char) :
    startsCased (front ++ c :: rest) = startsCased front := by
  induction front with
  | nil => simp [startsCased, gap.seen, gap.uncased]
  | cons d front ih =>
    unfold startsCased at ih ⊢
    by_cases ignored : isCaseIgnorable d = true
    · simpa [ignored] using ih
    · simp [ignored]

/-- What stands before a gap does not matter after it. -/
theorem lowercaseAfter_append (before beyond text : List Char) :
    lowercaseAfter (before ++ c :: beyond) text = lowercaseAfter before text := by
  induction text generalizing before with
  | nil => rfl
  | cons d rest ih =>
    rw [lowercaseAfter_cons, lowercaseAfter_cons, ← List.cons_append, ih, lowercaseChar,
      lowercaseChar, gap.startsCased_append]

/-- What stands after a gap does not matter before it. -/
theorem lowercaseAfter_append_right (before s t : List Char) : lowercaseAfter before (s ++ c :: t) =
    lowercaseAfter before s ++ lowercaseAfter (s.reverse ++ before) (c :: t) := by
  induction s generalizing before with
  | nil => rfl
  | cons d rest ih =>
    rw [List.cons_append, lowercaseAfter_cons, lowercaseAfter_cons, ih, lowercaseChar,
      lowercaseChar, gap.startsCased_append, List.append_assoc, List.reverse_cons,
      List.append_assoc, List.singleton_append]

end IsGap

/-- Texts with a gap between them are lower-cased one by one. -/
theorem lowercase_append_gap (gap : IsGap c) (s t : List Char) :
    lowercase (s ++ c :: t) = lowercase s ++ c :: lowercase t := by
  have beyond : lowercaseAfter (c :: (s.reverse ++ [])) t = lowercase t :=
    gap.lowercaseAfter_append [] _ t
  rw [lowercase, gap.lowercaseAfter_append_right, lowercaseAfter_cons,
    lowercaseChar_of_not_capital gap.small, beyond]
  rfl

theorem lowercase_intercalate (gap : IsGap c) (texts : List (List Char)) :
    lowercase ([c].intercalate texts) = [c].intercalate (texts.map lowercase) := by
  induction texts with
  | nil => rfl
  | cons s rest ih =>
    cases rest with
    | nil => simp
    | cons t rest =>
      rw [List.intercalate_cons_cons, List.append_assoc, List.singleton_append,
        lowercase_append_gap gap, ih]
      simp [List.intercalate_cons_cons]

end Concordance.Text
