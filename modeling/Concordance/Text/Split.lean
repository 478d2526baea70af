/-!
# Cutting a text at separators

A text is cut at the first or at the last occurrence of one separator, or at all
characters that count as separators.

* `pieces` keeps the empty pieces between adjacent separators, `runs` drops them:
  the runs of a text are its maximal stretches of characters of one kind.
* `splitFirst_eq_some_iff`, `splitLast_eq_some_iff`: where a text is cut.
* `pieces_eq_splitOnP`: the pieces are those of the library.
* `pieces_append_sep`, `runs_append_sep`: a separator parts what is on its two sides.
-/

namespace Concordance.Text

/-- What stands before and after the first `sep`. -/
def splitFirst (sep : Char) : List Char → Option (List Char × List Char)
  | [] => none
  | c :: rest =>
    if c = sep then some ([], rest)
    else (splitFirst sep rest).map fun (before, after) => (c :: before, after)

theorem splitFirst_eq_none_iff {sep : Char} {text : List Char} :
    splitFirst sep text = none ↔ sep ∉ text := by
  induction text with
  | nil => simp [splitFirst]
  | cons c rest ih =>
    by_cases h : c = sep
    · simp [splitFirst, h]
    · simp [splitFirst, h, ih, Ne.symm h]

/-- A text is cut at a separator that does not occur before it. -/
theorem splitFirst_eq_some_iff {sep : Char} {text before after : List Char} :
    splitFirst sep text = some (before, after) ↔
      text = before ++ sep :: after ∧ sep ∉ before := by
  induction text generalizing before with
  | nil => simp [splitFirst]
  | cons c rest ih =>
    by_cases h : c = sep
    · cases before with
      | nil => simp [splitFirst, h, eq_comm]
      | cons b before =>
        simp only [splitFirst, h, if_true, Option.some.injEq, Prod.mk.injEq, List.nil_eq,
          reduceCtorEq, false_and, List.cons_append, List.cons.injEq, List.mem_cons, not_or,
          false_iff]
        exact fun ⟨⟨eq, _⟩, ne, _⟩ => ne eq
    · cases before with
      | nil => simp [splitFirst, h]
      | cons b before =>
        simp only [splitFirst, h, if_false, Option.map_eq_some_iff, Prod.exists, Prod.mk.injEq,
          List.cons.injEq, List.cons_append, List.mem_cons, not_or]
        constructor
        · rintro ⟨x, y, cut, ⟨rfl, rfl⟩, rfl⟩
          obtain ⟨rfl, absent⟩ := ih.mp cut
          exact ⟨⟨rfl, rfl⟩, Ne.symm h, absent⟩
        · rintro ⟨⟨rfl, rfl⟩, -, absent⟩
          exact ⟨before, after, ih.mpr ⟨rfl, absent⟩, ⟨rfl, rfl⟩, rfl⟩

/-- What stands before and after the last `sep`. -/
def splitLast (sep : Char) (text : List Char) : Option (List Char × List Char) :=
  (splitFirst sep text.reverse).map fun (after, before) => (before.reverse, after.reverse)

theorem splitLast_eq_none_iff {sep : Char} {text : List Char} :
    splitLast sep text = none ↔ sep ∉ text := by
  simp [splitLast, splitFirst_eq_none_iff]

/-- A text is cut at a separator that does not occur after it. -/
theorem splitLast_eq_some_iff {sep : Char} {text before after : List Char} :
    splitLast sep text = some (before, after) ↔
      text = before ++ sep :: after ∧ sep ∉ after := by
  simp only [splitLast, Option.map_eq_some_iff, Prod.exists, Prod.mk.injEq,
    splitFirst_eq_some_iff]
  constructor
  · rintro ⟨x, y, ⟨cut, absent⟩, rfl, rfl⟩
    exact ⟨by simpa using congrArg List.reverse cut, by simpa using absent⟩
  · rintro ⟨rfl, absent⟩
    exact ⟨after.reverse, before.reverse, by simpa using absent, by simp, by simp⟩

/-- Adds the character `c` in front of a text that is cut into pieces already. -/
def consPiece (isSep : Char → Bool) (c : Char) (cut : List (List Char)) : List (List Char) :=
  if isSep c then [] :: cut
  else
    match cut with
    | piece :: rest => (c :: piece) :: rest
    | [] => [[c]]

/-- The pieces between separators, empty ones included. -/
def pieces (isSep : Char → Bool) (text : List Char) : List (List Char) :=
  text.foldr (consPiece isSep) [[]]

/-- The pieces of a text are those that it is cut into as a list. -/
theorem pieces_eq_splitOnP {isSep : Char → Bool} {text : List Char} :
    pieces isSep text = text.splitOnP isSep := by
  induction text with
  | nil => rw [List.splitOnP_nil, pieces, List.foldr_nil]
  | cons c rest ih =>
    have step : pieces isSep (c :: rest) = consPiece isSep c (pieces isSep rest) := rfl
    rw [step, ih, List.splitOnP_cons_eq_if_modifyHead]
    unfold consPiece
    split
    · rfl
    · split
      · next cut => rw [cut, List.modifyHead_cons]
      · next cut => exact absurd cut (List.splitOnP_ne_nil isSep rest)

/-- A separator cuts a text into what stands before it and what stands after it. -/
theorem pieces_append_sep {isSep : Char → Bool} {c : Char} (h : isSep c = true)
    (s t : List Char) : pieces isSep (s ++ c :: t) = pieces isSep s ++ pieces isSep t := by
  rw [pieces_eq_splitOnP, pieces_eq_splitOnP, pieces_eq_splitOnP]
  exact List.splitOnP_append_cons s t h

/-- The maximal non-empty stretches of characters that satisfy `p`. -/
def runs (p : Char → Bool) (text : List Char) : List (List Char) :=
  (pieces (fun c => !p c) text).filter fun piece => !piece.isEmpty

theorem runs_append_sep {p : Char → Bool} {c : Char} (h : p c = false) (s t : List Char) :
    runs p (s ++ c :: t) = runs p s ++ runs p t := by
  have cut := @pieces_append_sep (fun c => !p c) c (by simp [h]) s t
  simp [runs, cut]

end Concordance.Text
