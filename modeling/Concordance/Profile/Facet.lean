/-!
# Facets

A facet is one thing that is said of a document: an aspect with a value. The aspect
has a name and says what kind of value it carries, so a word of a text and a text
that consists of that word are values of different aspects.

* `Facet.display`: a facet as text.
-/

namespace Concordance

/-- What kind of value an aspect carries. A word is taken from a longer text. -/
inductive ValueKind
  | text
  | word
  | integer
  | boolean
  deriving DecidableEq

/-- A class of facets. -/
structure Aspect where
  name : String
  kind : ValueKind
  deriving DecidableEq

/-- The name of the aspects that nothing is known about. -/
def Aspect.unknownName : String := "UNKNOWN"

/-- Whether nothing is known about the aspect. -/
def Aspect.isUnknown (a : Aspect) : Bool := a.name == unknownName

/-- The value of a facet. -/
inductive FacetValue
  | text (s : String)
  | integer (n : Int64)
  | boolean (b : Bool)
  deriving DecidableEq

/-- The kind of a value that is not a word. -/
def FacetValue.kind : FacetValue → ValueKind
  | .text _ => .text
  | .integer _ => .integer
  | .boolean _ => .boolean

/-- A value as text. -/
def FacetValue.display : FacetValue → String
  | .text s => s
  | .integer n => toString n.toInt
  | .boolean b => if b then "true" else "false"

/-- An aspect with a value. -/
structure Facet where
  aspect : Aspect
  value : FacetValue
  deriving DecidableEq

/-- A facet as text. -/
def Facet.display (f : Facet) : String := s!"{f.aspect.name}={f.value.display}"

end Concordance
