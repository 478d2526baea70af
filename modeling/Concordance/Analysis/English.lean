import Concordance.Analysis.Analyzer

/-!
# The English analyzer

An English word is one or more ASCII letters. Its one normal form is the word in
small letters, without its ending if it has one of the endings of plurals, verb
forms and adverbs.

* `English.stem`: the normal form of a word in small letters.
* `Analyzer.english`: the analyzer.
-/

namespace Concordance

namespace English

/-- The endings of verb forms and adverbs. -/
def verbEndings : List (List Char) := ["ing".toList, "ed".toList, "ly".toList]

/-- The ends of a word after which the plural is formed with `es`. -/
def sibilants : List (List Char) :=
  ["s".toList, "x".toList, "z".toList, "ch".toList, "sh".toList]

/-- The plural of a word in `y`. -/
def stemIes (word : List Char) : Option (List Char) := do
  let base ← stripSuffix? "ies".toList word
  guard (minStem - 1 ≤ base.length)
  return base ++ ['y']

/-- The plural of a word in `ss`. -/
def stemSses (word : List Char) : Option (List Char) := do
  let base ← stripSuffix? "sses".toList word
  return base ++ ['s', 's']

/-- A word with one ending that leaves a stem. -/
def stemEnding (word ending : List Char) : Option (List Char) := do
  let base ← stripSuffix? ending word
  guard (minStem ≤ base.length)
  return base

/-- The plural of a word that ends in a sibilant. -/
def stemEs (word : List Char) : Option (List Char) := do
  let base ← stemEnding word "es".toList
  guard (sibilants.any fun s => s.isSuffixOf base)
  return base

/-- Any other plural, which no word in a double `s` is. -/
def stemS (word : List Char) : Option (List Char) := do
  let base ← stemEnding word ['s']
  guard (base.getLast? ≠ some 's')
  return base

/-- The normal form of a word in small letters: the first rule that applies counts. -/
def stem (word : List Char) : List Char :=
  (stemIes word <|> stemSses word <|> verbEndings.findSome? (stemEnding word) <|>
    stemEs word <|> stemS word).getD word

/-- Whether `c` is a letter of the English alphabet. -/
def isLetter (c : Char) : Bool := c.isAlpha

/-- Whether a text is an English word. -/
def isWord (word : List Char) : Bool := !word.isEmpty && word.all isLetter

end English

/-- The analyzer of English words. -/
def Analyzer.english : Analyzer where
  name := "english-suffix"
  normalForms word :=
    if English.isWord word.toList then
      .ok (.ofList [String.ofList (English.stem (Text.asciiLowercase word.toList))])
    else .error (.rejected word .en)

end Concordance
