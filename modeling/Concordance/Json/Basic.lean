/-!
# JSON values

A JSON text denotes a tree. Two things of the text are kept that a value need not
have: the form of a number, since `1` and `1.0` are accepted in different places,
and the difference between a string that is Unicode text and one in which an
escape names half of a surrogate pair.

* `Number`: a number as it is written.
* `Json`: the tree.
-/

namespace Concordance

/-- A number as JSON writes it: an optional minus sign, whole digits, and optional
digits after a point and exponent. -/
structure Json.Number where
  negative : Bool
  whole : Nat
  /-- The digits after the point; none if there is no point. -/
  fraction : List Char
  exponent : Option Int
  deriving DecidableEq

/-- What a string of a JSON text says: a text, or nothing when its escapes name half
of a surrogate pair. -/
abbrev Json.Text := Option String

/-- A JSON value. The members of an object keep their order and may repeat. -/
inductive Json
  | null
  | bool (b : Bool)
  | number (n : Json.Number)
  | string (s : Json.Text)
  | array (items : List Json)
  | object (members : List (Json.Text × Json))
  deriving Inhabited

namespace Json

/-- The number that is written as the integer `i`. -/
def Number.ofInt (i : Int) : Number := ⟨decide (i < 0), i.natAbs, [], none⟩

/-- The integer that the number is written as. A number with a point or an exponent
is not written as an integer, and neither is the negative zero. -/
def Number.toInt? (n : Number) : Option Int :=
  if n.fraction.isEmpty && n.exponent.isNone then
    if n.negative then if n.whole = 0 then none else some (-n.whole)
    else some n.whole
  else none

theorem Number.toInt?_ofInt (i : Int) : (Number.ofInt i).toInt? = some i := by
  by_cases h : i < 0
  · have nonzero : i.natAbs ≠ 0 := by omega
    have value : -(i.natAbs : Int) = i := by omega
    simp only [toInt?, ofInt, List.isEmpty_nil, Option.isNone_none, Bool.and_self, if_true, h,
      decide_true, nonzero, if_false, value]
  · have value : (i.natAbs : Int) = i := by omega
    simp only [toInt?, ofInt, List.isEmpty_nil, Option.isNone_none, Bool.and_self, if_true, h,
      decide_false, Bool.false_eq_true, if_false, value]

end Json

end Concordance
