import Concordance.Text.Ranges

/-!
# Blank characters

The characters with the Unicode property White_Space, and what it means to trim
a text: the blanks at its two ends are dropped, those inside it stay.

* `isBlank`: whether a character is white space.
* `trim`, `trim_eq_nil_iff`: what trimming leaves.
-/

namespace Concordance.Text

/-- Code points of the blank characters, as ascending ranges. -/
def blankRanges : List (Nat × Nat) := [
  (0x9, 0xd), (0x20, 0x20), (0x85, 0x85), (0xa0, 0xa0), (0x1680, 0x1680), (0x2000, 0x200a),
  (0x2028, 0x2029), (0x202f, 0x202f), (0x205f, 0x205f), (0x3000, 0x3000)]

/-- Whether `c` is white space. -/
def isBlank (c : Char) : Bool := inRanges blankRanges c

/-- The text without the blanks at its two ends. -/
def trim (text : List Char) : List Char :=
  ((text.dropWhile isBlank).reverse.dropWhile isBlank).reverse

/-- Whether the text holds nothing but blanks, so that trimming leaves nothing. -/
def allBlank (text : List Char) : Bool := text.all isBlank

theorem dropWhile_isBlank_eq_nil_iff {text : List Char} :
    text.dropWhile isBlank = [] ↔ allBlank text = true := by
  induction text with
  | nil => simp [allBlank]
  | cons c rest ih => cases h : isBlank c <;> simp_all [allBlank]

theorem not_isBlank_of_dropWhile_eq_cons {text rest : List Char} {c : Char}
    (h : text.dropWhile isBlank = c :: rest) : isBlank c = false := by
  induction text with
  | nil => simp at h
  | cons d tail ih =>
    cases hd : isBlank d with
    | true => exact ih (by simpa [List.dropWhile_cons, hd] using h)
    | false =>
      obtain ⟨rfl, -⟩ : d = c ∧ tail = rest := by simpa [List.dropWhile_cons, hd] using h
      exact hd

/-- Nothing is left of a text exactly when it holds nothing but blanks. -/
theorem trim_eq_nil_iff {text : List Char} : trim text = [] ↔ allBlank text = true := by
  rw [trim, List.reverse_eq_nil_iff, dropWhile_isBlank_eq_nil_iff]
  constructor
  · intro h
    refine dropWhile_isBlank_eq_nil_iff.mp ?_
    cases hd : text.dropWhile isBlank with
    | nil => rfl
    | cons c rest =>
      have kept := not_isBlank_of_dropWhile_eq_cons hd
      simp [hd, allBlank, kept] at h
  · intro h
    simp [dropWhile_isBlank_eq_nil_iff.mpr h, allBlank]

end Concordance.Text
