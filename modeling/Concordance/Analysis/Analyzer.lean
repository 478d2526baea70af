import Concordance.Language
import Concordance.Sorted.Set

/-!
# Morphological analyzers

An analyzer knows the words of one language. It gives the normal forms of a word,
the forms a dictionary lists it under, and refuses a word that is not written in
the alphabet of its language. A word without normal forms is one that the analyzer
does not know.

* `Analyzer`: a name and the normal forms of every word.
* `AnalyzerError.message`: the wording of what can go wrong.
* `stripSuffix?_eq_some_iff`: what is left of a word without a suffix.
-/

namespace Concordance

/-- What goes wrong when an analyzer is made or asked. -/
inductive AnalyzerError
  | unsupported (language : Language)
  | unavailable (language : Language) (reason : String)
  | rejected (word : String) (language : Language)
  deriving DecidableEq

/-- The wording of an error. -/
def AnalyzerError.message : AnalyzerError → String
  | .unsupported language => s!"no analyzer available for language '{language.code}'"
  | .unavailable language reason =>
    s!"analyzer for language '{language.code}' failed to load: {reason}"
  | .rejected word language =>
    s!"word '{word}' is outside the alphabet of language '{language.code}'"

/-- The normal forms of a word. -/
abbrev Forms := SortedSet String

/-- A morphological analyzer. -/
structure Analyzer where
  name : String
  normalForms : String → Except AnalyzerError Forms

namespace Analyzer

/-- The normal forms of a word; a refused word has none. -/
def formsOf (a : Analyzer) (word : String) : Forms :=
  match a.normalForms word with
  | .ok forms => forms
  | .error _ => ∅

/-- The analyzer that knows no word. -/
def noop : Analyzer := ⟨"noop", fun _ => .ok ∅⟩

end Analyzer

/-- The fewest letters that may be left when an ending is taken off. -/
def minStem : Nat := 3

/-- What stands before a suffix. -/
def stripSuffix? (suffix word : List Char) : Option (List Char) :=
  if suffix.isSuffixOf word then some (word.take (word.length - suffix.length)) else none

theorem stripSuffix?_eq_some_iff {suffix word base : List Char} :
    stripSuffix? suffix word = some base ↔ word = base ++ suffix := by
  unfold stripSuffix?
  split
  · next ends =>
    obtain ⟨front, rfl⟩ := List.isSuffixOf_iff_suffix.mp ends
    simp
  · next ends =>
    refine iff_of_false nofun fun cut => ends ?_
    exact List.isSuffixOf_iff_suffix.mpr ⟨base, cut.symm⟩

end Concordance
