import Concordance.Wire.Basic

/-!
# Records on the wire

A record is written as an object with its fields in order. It is read from such an
object, in which the fields may stand in any order and other members are passed
over, or from the array of its fields in order. A field that is named twice is
refused. What a missing field means depends on the field.

* `Fields.of?`: the fields of a tree.
* `Fields.required`, `Fields.optional`, `Fields.orElse`: the value of a field.
-/

namespace Concordance

/-- The fields of a record, as they were found in a tree. -/
structure Fields where
  /-- Whether the fields were told apart by their place and not by their names. -/
  positional : Bool
  found : List (String × Json)

namespace Fields

/-- Takes the next member of an object into the fields. -/
def take (names : List String) (found : List (String × Json)) (member : Json.Text × Json) :
    Option (List (String × Json)) := do
  let key ← member.1
  if names.contains key then
    guard (found.lookup key).isNone
    return (key, member.2) :: found
  else
    return found

/-- The fields of a record whose fields are called `names`, in this order. -/
def of? (names : List String) : Json → Option Fields
  | .object members => (members.foldlM (take names) []).map fun found => ⟨false, found⟩
  | .array items =>
    if items.length ≤ names.length then some ⟨true, names.zip items⟩ else none
  | _ => none

/-- A field that has to be there. -/
def required {α : Type} [OfJson α] (fields : Fields) (name : String) : Option α :=
  (fields.found.lookup name).bind ofJson?

/-- A field whose value may be absent. It can only be left out where fields are
named. -/
def optional {α : Type} [OfJson α] (fields : Fields) (name : String) : Option (Option α) :=
  match fields.found.lookup name with
  | some j => ofJson? j
  | none => if fields.positional then none else some none

/-- A field that has the value `default` when it is left out. -/
def orElse {α : Type} [OfJson α] (fields : Fields) (name : String) (default : α) : Option α :=
  match fields.found.lookup name with
  | some j => ofJson? j
  | none => some default

end Fields

/-- The tree of a record. -/
def record (fields : List (String × Json)) : Json :=
  .object (fields.map fun (name, value) => (some name, value))

/-- A field that is not written when its value is absent. -/
def unlessAbsent {α : Type} [ToJson α] (name : String) : Option α → List (String × Json)
  | none => []
  | some a => [(name, toJson a)]

end Concordance
