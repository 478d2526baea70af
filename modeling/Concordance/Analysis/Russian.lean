import Concordance.Analysis.Analyzer

/-!
# The Russian analyzer

A Russian word is one or more letters of the Russian alphabet. Its one normal form
is the word in small letters, with every `ё` written as `е`, without its longest
case ending that leaves a stem.

* `Russian.stem`: the normal form of a word in small letters.
* `Analyzer.russian`: the analyzer.
-/

namespace Concordance

namespace Russian

/-- The case endings, longer ones first. -/
def endings : List (List Char) :=
  ["ями", "ами", "ого", "его", "ому", "ему", "ыми", "ими", "ая", "яя", "ое", "ее", "ые", "ие",
    "ой", "ей", "ий", "ый", "ом", "ем", "ах", "ях", "ов", "ев", "а", "я", "о", "е", "ы", "и",
    "у", "ю", "ь"].map String.toList

/-- Whether `c` is a small letter of the Russian alphabet. -/
def isLetter (c : Char) : Bool := ('а' ≤ c && c ≤ 'я') || c == 'ё'

/-- Whether a text is a Russian word in small letters. -/
def isWord (word : List Char) : Bool := !word.isEmpty && word.all isLetter

/-- Writes `ё` as `е`. -/
def foldYo (word : List Char) : List Char := word.map fun c => if c = 'ё' then 'е' else c

/-- A word without one ending, if that leaves a stem. -/
def stemEnding (word ending : List Char) : Option (List Char) := do
  let base ← stripSuffix? ending word
  guard (minStem ≤ base.length)
  return base

/-- The normal form of a word in small letters. -/
def stem (word : List Char) : List Char :=
  (endings.findSome? (stemEnding (foldYo word))).getD (foldYo word)

end Russian

/-- The analyzer of Russian words. -/
def Analyzer.russian : Analyzer where
  name := "russian-suffix"
  normalForms word :=
    let lower := Text.lowercase word.toList
    if Russian.isWord lower then .ok (.ofList [String.ofList (Russian.stem lower)])
    else .error (.rejected word .ru)

end Concordance
