import Concordance.Decimal.Unsigned

/-!
# Shortest decimal form of a binary floating-point number

A binary64 number is written with the fewest decimal digits that are read back
as the same number. Of several such forms the one nearest to the number is
taken, and of two equally near ones the larger. All steps are exact, on natural
numbers.

* `shortest`: the digits and the power of ten they count.
* `positional`: the digits written out with a decimal point and no exponent.
* `render`: the text of a number, with `NaN`, `inf` and a sign where they apply.
-/

namespace Concordance.Decimal

/-- A positive number `mantissa * 2 ^ exponent` between its two neighbours. The
lower neighbour is half as far away as the upper one when `narrowBelow` holds. -/
structure Magnitude where
  mantissa : Nat
  exponent : Int
  narrowBelow : Bool

/-- The magnitude that a binary64 pattern without its sign stands for. -/
def Magnitude.ofBits (bits : Nat) : Magnitude :=
  let fraction : Nat := bits % 0x10000000000000
  let biased : Nat := bits / 0x10000000000000 % 0x800
  if biased = 0 then ⟨fraction, -1074, false⟩
  else ⟨0x10000000000000 + fraction, (biased : Int) - 1075, fraction == 0⟩

/-- A fraction that stands for `n * 2 ^ e`. -/
def scaled (n : Nat) (e : Int) : Nat × Nat :=
  if 0 ≤ e then (n <<< e.toNat, 1) else (n, 1 <<< (-e).toNat)

/-- The place of the leading decimal digit of the positive fraction `num / den`:
the greatest `e` with `10 ^ e ≤ num / den`. -/
def leadingPlace (num den : Nat) : Int :=
  if den ≤ num then ((digits (num / den)).length : Int) - 1
  else -((digits ((den + num - 1) / num - 1)).length : Int)

/-- The digits nearest to the magnitude among those that are read back as it and
count units of `10 ^ place`. Only the two neighbours of the magnitude on that grid
can be nearest. -/
def nearestAt (x : Magnitude) (place : Int) : Option Nat :=
  let below := if x.narrowBelow then 1 else 2
  -- the magnitude in quarters of its last binary place, then in units of the grid
  let (num, den) := scaled (4 * x.mantissa) (x.exponent - 2)
  let unit := num / (4 * x.mantissa)
  let (num, unit, den) :=
    if 0 ≤ place then (num, unit, den * Nat.pow 10 place.toNat)
    else (num * Nat.pow 10 (-place).toNat, unit * Nat.pow 10 (-place).toNat, den)
  let low := num - below * unit
  let high := num + 2 * unit
  let readsBack (d : Nat) : Bool :=
    if x.mantissa % 2 = 0 then low ≤ d * den && d * den ≤ high
    else low < d * den && d * den < high
  let d := num / den
  match readsBack d, readsBack (d + 1) with
  | true, true => if 2 * (num - d * den) < den then some d else some (d + 1)
  | true, false => some d
  | false, true => some (d + 1)
  | false, false => none

/-- The digits of the shortest form and the power of ten that they count. Seventeen
digits are always enough. -/
def shortest (x : Magnitude) : Nat × Int :=
  let (num, den) := scaled x.mantissa x.exponent
  let place := leadingPlace num den
  let form := (List.range 17).findSome? fun (n : Nat) =>
    (nearestAt x (place - n)).map fun d => (d, place - n)
  form.getD (x.mantissa, 0)

/-- Drops zeros at the end of a fraction. -/
def dropZeros (fraction : List Char) : List Char :=
  (fraction.reverse.dropWhile (· == '0')).reverse

/-- Writes `d * 10 ^ place` without an exponent. -/
def positional (d : Nat) (place : Int) : List Char :=
  if 0 ≤ place then digits (d * Nat.pow 10 place.toNat)
  else
    let scale := Nat.pow 10 (-place).toNat
    let fraction := digits (d % scale)
    let padded := List.replicate ((-place).toNat - fraction.length) '0' ++ fraction
    match dropZeros padded with
    | [] => digits (d / scale)
    | kept => digits (d / scale) ++ '.' :: kept

/-- The text of a number: its shortest digits, written out in full. -/
def render (x : Float) : String :=
  let bits := x.toBits.toNat
  if x.isNaN then "NaN"
  else
    let sign := if 0x8000000000000000 ≤ bits then "-" else ""
    if x.isInf then sign ++ "inf"
    else if bits % 0x8000000000000000 = 0 then sign ++ "0"
    else
      let (d, place) := shortest (.ofBits (bits % 0x8000000000000000))
      sign ++ String.ofList (positional d place)

end Concordance.Decimal
