import Concordance.Decimal.Unsigned
import Concordance.Json.Basic

/-!
# The text of a JSON number and its value as a float

* `Number.read?`: the number that a whole text writes.
* `Number.write`: the text of a number.
* `Number.toFloat?`: the binary64 number that is computed from the leading digits
  and one power of ten.
-/

namespace Concordance.Json.Number

open Decimal (digit? digits)

/-- Whether `c` is a decimal digit. -/
def isDigit (c : Char) : Bool := (digit? c).isSome

/-- The value of a string of digits. -/
def valueOf (text : List Char) : Nat :=
  text.foldl (fun value c => 10 * value + (digit? c).getD 0) 0

/-- Whether digits can stand in front of the point: there is one, and a zero only
stands there alone. -/
def isWhole : List Char → Bool
  | [] => false
  | ['0'] => true
  | c :: _ => c != '0'

/-- Cuts the digits after a point off. -/
def readFraction : List Char → Option (List Char × List Char)
  | '.' :: rest =>
    match rest.takeWhile isDigit with
    | [] => none
    | fraction => some (fraction, rest.dropWhile isDigit)
  | rest => some ([], rest)

/-- The digits of an exponent, to the end of the text. -/
def readPower (negative : Bool) (text : List Char) : Option Int :=
  if text.isEmpty || !text.all isDigit then none
  else some (if negative then -valueOf text else valueOf text)

/-- The exponent that the rest of the text writes, or none if nothing is left. -/
def readExponent : List Char → Option (Option Int)
  | [] => some none
  | e :: rest =>
    if e = 'e' ∨ e = 'E' then
      match rest with
      | '-' :: power => (readPower true power).map some
      | '+' :: power => (readPower false power).map some
      | power => (readPower false power).map some
    else none

/-- The number without its sign. -/
def readMagnitude (negative : Bool) (text : List Char) : Option Number := do
  let whole := text.takeWhile isDigit
  guard (isWhole whole)
  let (fraction, rest) ← readFraction (text.dropWhile isDigit)
  let exponent ← readExponent rest
  return ⟨negative, valueOf whole, fraction, exponent⟩

/-- The number that the whole text writes. -/
def read? : List Char → Option Number
  | '-' :: rest => readMagnitude true rest
  | text => readMagnitude false text

/-- The text of a number. -/
def write (n : Number) : List Char :=
  (if n.negative then ['-'] else []) ++ digits n.whole ++
    (if n.fraction.isEmpty then [] else '.' :: n.fraction) ++
    match n.exponent with
    | none => []
    | some e => 'e' :: (if e < 0 then ['-'] else []) ++ digits e.natAbs

/-! ## The value as a float -/

/-- The greatest significand that is computed exactly. -/
def maxSignificand : Nat := UInt64.size - 1

/-- Digits taken into a significand as long as it stays exact, and the number of
digits that are left over. -/
def takeDigits (significand : Nat) : List Char → Nat × Nat
  | [] => (significand, 0)
  | c :: rest =>
    let next := 10 * significand + (digit? c).getD 0
    if maxSignificand < next then (significand, rest.length + 1) else takeDigits next rest

/-- A power of ten as a float, for exponents up to 308. -/
def powerOfTen (n : Nat) : Float := Float.ofScientific 1 false n

/-- `significand * 10 ^ exponent` by one multiplication or division, two for very
small numbers; none when it is out of range. -/
def scale (significand : Nat) (exponent : Int) : Option Float :=
  let f := significand.toUInt64.toFloat
  if 0 ≤ exponent then
    if exponent ≤ 308 then
      let product := f * powerOfTen exponent.toNat
      if product.isInf then none else some product
    else if significand = 0 then some f else none
  else if -308 ≤ exponent then some (f / powerOfTen (-exponent).toNat)
  else if -616 ≤ exponent then some (f / powerOfTen 308 / powerOfTen (-(exponent + 308)).toNat)
  else some 0.0

/-- The magnitude of the number as a float. Digits beyond the exact significand only
count for their place in front of the point, and not at all after it. -/
def magnitude? (n : Number) : Option Float :=
  let (significand, dropped) := takeDigits 0 (digits n.whole)
  let (significand', unread) := takeDigits significand n.fraction
  let place : Int := dropped - (n.fraction.length - unread : Nat)
  match n.exponent with
  | none => scale significand' place
  | some e =>
    if 0x80000000 ≤ e then if significand' = 0 then some 0.0 else none
    else if e ≤ -0x80000000 then some 0.0
    else scale significand' (place + e)

/-- The number as a float, none when it is out of range. -/
def toFloat? (n : Number) : Option Float :=
  n.magnitude?.map fun f => if n.negative then -f else f

end Concordance.Json.Number
