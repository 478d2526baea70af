import Concordance.Text.CaseContext
import Concordance.Text.SmallLetter

/-!
# Lower-casing a text

Every character is replaced by its small letter, with the two exceptions that
Unicode makes for all languages: the capital I with a dot above becomes an i
followed by a combining dot, and the Greek capital sigma takes its final form at
the end of a word. A sigma ends a word when, looking through case-ignorable
characters, there is a cased letter before it and none after it.

* `lowercase_nil`, `lowercaseAfter_cons`: the text is lowered from left to right,
  and only a sigma looks at what stands around it.
-/

namespace Concordance.Text

/-- Whether the first character that is not case ignorable is a cased letter. -/
def startsCased (text : List Char) : Bool :=
  match text.dropWhile isCaseIgnorable with
  | c :: _ => isCased c
  | [] => false

/-- The small form of the character `c` that stands between `before`, read
backwards, and `after`. -/
def lowercaseChar (before : List Char) (c : Char) (after : List Char) : List Char :=
  if c = 'Σ' then
    if startsCased before && !startsCased after then ['ς'] else ['σ']
  else if c = 'İ' then ['i', '\u0307']
  else [smallLetter c]

/-- Lower-cases a text that follows `before`, which is read backwards. -/
def lowercaseAfter (before : List Char) : List Char → List Char
  | [] => []
  | c :: rest => lowercaseChar before c rest ++ lowercaseAfter (c :: before) rest

/-- The text in small letters. -/
def lowercase (text : List Char) : List Char := lowercaseAfter [] text

@[simp] theorem lowercase_nil : lowercase [] = [] := rfl

theorem lowercaseAfter_cons (before : List Char) (c : Char) (rest : List Char) :
    lowercaseAfter before (c :: rest) =
      lowercaseChar before c rest ++ lowercaseAfter (c :: before) rest := rfl

/-- The small letter of an ASCII capital; any other character stays as it is. -/
def asciiLowercase (text : List Char) : List Char := text.map Char.toLower

end Concordance.Text
