import Concordance.Json.Number
import Mathlib.Data.List.Basic

/-!
# A number that is written is read back

A number has one text, and the digits in front of the point, those after it and the
exponent are found in it again. The one thing that a number can hold and no text can
say is a character after the point that is no digit.

* `Number.Proper`: the numbers whose fractions consist of digits.
* `Number.read?_write`: reading is a left inverse of writing, on those.
-/

namespace Concordance.Json.Number

open Decimal (digit? digits digit?_eq_some_iff)

/-- What stands after the point is digits. -/
def Proper (n : Number) : Prop := ∀ c ∈ n.fraction, isDigit c = true

theorem proper_ofInt (i : Int) : (ofInt i).Proper := by simp [Proper, ofInt]

/-! ## Digits -/

theorem isDigit_iff {c : Char} : isDigit c = true ↔ c.isDigit = true := by
  simp only [isDigit, Option.isSome_iff_exists, digit?_eq_some_iff, exists_and_left, exists_eq,
    and_true]

theorem digit?_getD {c : Char} (h : c.isDigit = true) : (digit? c).getD 0 = c.toNat - '0'.toNat := by
  rw [digit?_eq_some_iff.mpr ⟨h, rfl⟩, Option.getD_some]

theorem isDigit_of_mem_digits {n : Nat} {c : Char} (h : c ∈ digits n) : isDigit c = true :=
  isDigit_iff.mpr (Decimal.isDigit_of_mem_digits h)

theorem digits_ne_nil (n : Nat) : digits n ≠ [] := Nat.toDigits_ne_nil

/-- No number but zero begins with a zero: a number of more than one digit begins with
the digits of its tenth, which is not zero either. -/
theorem exists_digits_of_ne_zero {n : Nat} (h : n ≠ 0) :
    ∃ c rest, digits n = c :: rest ∧ c ≠ '0' := by
  induction n using Nat.strongRecOn with
  | ind n ih =>
    rw [digits, Nat.toDigits_eq_if (by decide)]
    split
    · next small =>
      have nonzero : ∀ d < 10, d ≠ 0 → Nat.digitChar d ≠ '0' := by decide
      exact ⟨_, [], rfl, nonzero n small h⟩
    · next large =>
      obtain ⟨c, rest, eq, nonzero⟩ := ih (n / 10) (by omega) (by omega)
      rw [digits] at eq
      exact ⟨c, rest ++ [_], by rw [eq, List.cons_append], nonzero⟩

theorem isWhole_digits (n : Nat) : isWhole (digits n) = true := by
  by_cases zero : n = 0
  · subst zero
    rfl
  · obtain ⟨c, rest, eq, nonzero⟩ := exists_digits_of_ne_zero zero
    rw [eq, isWhole]
    · simpa using nonzero
    · rintro rfl rfl
      exact nonzero rfl

theorem valueOf_eq_ofDigitChars {text : List Char} (h : ∀ c ∈ text, isDigit c = true) :
    valueOf text = Nat.ofDigitChars 10 text 0 :=
  List.foldl_ext _ _ _ fun value c hc => by rw [digit?_getD (isDigit_iff.mp (h c hc))]

theorem valueOf_digits (n : Nat) : valueOf (digits n) = n := by
  rw [valueOf_eq_ofDigitChars fun _ => isDigit_of_mem_digits]
  exact Nat.ofDigitChars_toDigits (by decide) (by decide)

/-! ## The parts of a text -/

/-- Nothing that could still belong to the digits before it. -/
def NoDigit (text : List Char) : Prop := text.takeWhile isDigit = [] ∧ text.dropWhile isDigit = text

theorem noDigit_cons {c : Char} (h : isDigit c = false) (rest : List Char) : NoDigit (c :: rest) := by
  simp [NoDigit, h]

theorem takeWhile_isDigit {text rest : List Char} (h : ∀ c ∈ text, isDigit c = true)
    (ends : NoDigit rest) : (text ++ rest).takeWhile isDigit = text := by
  rw [List.takeWhile_append_of_pos h, ends.1, List.append_nil]

theorem dropWhile_isDigit {text rest : List Char} (h : ∀ c ∈ text, isDigit c = true)
    (ends : NoDigit rest) : (text ++ rest).dropWhile isDigit = rest := by
  rw [List.dropWhile_append_of_pos h, ends.2]

/-- The text of an exponent. -/
def writeExponent : Option Int → List Char
  | none => []
  | some e => 'e' :: (if e < 0 then ['-'] else []) ++ digits e.natAbs

/-- The text of a fraction. -/
def writeFraction (fraction : List Char) : List Char :=
  if fraction.isEmpty then [] else '.' :: fraction

theorem mem_writeExponent {c : Char} {e : Option Int} (h : c ∈ writeExponent e) :
    c = 'e' ∨ c = '-' ∨ isDigit c = true := by
  cases e with
  | none => cases h
  | some e =>
    rcases List.mem_cons.mp h with rfl | h
    · exact .inl rfl
    rcases List.mem_append.mp h with sign | digit
    · split at sign
      · exact .inr (.inl (List.mem_singleton.mp sign))
      · cases sign
    · exact .inr (.inr (isDigit_of_mem_digits digit))

theorem mem_writeFraction {c : Char} {fraction : List Char} (h : c ∈ writeFraction fraction) :
    c = '.' ∨ c ∈ fraction := by
  cases fraction with
  | nil => cases h
  | cons => exact List.mem_cons.mp h

theorem noDigit_writeExponent (e : Option Int) : NoDigit (writeExponent e) := by
  cases e with
  | none => simp [writeExponent, NoDigit]
  | some e => exact noDigit_cons (by decide) _

theorem noDigit_writeFraction (fraction : List Char) (e : Option Int) :
    NoDigit (writeFraction fraction ++ writeExponent e) := by
  cases fraction with
  | nil => exact noDigit_writeExponent e
  | cons c rest => exact noDigit_cons (by decide) _

theorem readPower_digits (negative : Bool) (n : Nat) :
    readPower negative (digits n) = some (if negative then -(n : Int) else n) := by
  have all : (digits n).all isDigit = true := List.all_eq_true.mpr fun c => isDigit_of_mem_digits
  have nonempty : (digits n).isEmpty = false := List.isEmpty_eq_false_iff.mpr (digits_ne_nil n)
  simp only [readPower, all, nonempty, Bool.not_true, Bool.or_self, Bool.false_eq_true, if_false,
    valueOf_digits]

/-- Digits do not begin with a sign. -/
theorem exists_digits_eq (n : Nat) : ∃ c rest, digits n = c :: rest ∧ c ≠ '-' ∧ c ≠ '+' := by
  obtain ⟨c, rest, eq⟩ := List.exists_cons_of_ne_nil (digits_ne_nil n)
  have digit : isDigit c = true := isDigit_of_mem_digits (eq ▸ List.mem_cons_self)
  refine ⟨c, rest, eq, ?_, ?_⟩ <;>
    · rintro rfl
      exact absurd digit (by decide)

theorem readExponent_writeExponent (e : Option Int) : readExponent (writeExponent e) = some e := by
  cases e with
  | none => rfl
  | some e =>
    rw [writeExponent]
    by_cases negative : e < 0
    · have value : -(e.natAbs : Int) = e := by omega
      simp only [negative, if_true, List.cons_append, List.nil_append, readExponent, true_or,
        readPower_digits, value, Option.map_some]
    · have value : (e.natAbs : Int) = e := by omega
      obtain ⟨c, rest, eq, noMinus, noPlus⟩ := exists_digits_eq e.natAbs
      have read := readPower_digits false e.natAbs
      rw [eq] at read
      simp only [negative, if_false, eq, readExponent, List.cons_append, List.nil_append, true_or,
        if_true]
      split
      · next minus => exact absurd (List.cons.inj minus).1 noMinus
      · next plus => exact absurd (List.cons.inj plus).1 noPlus
      · simp only [read, Bool.false_eq_true, if_false, value, Option.map_some]

theorem readFraction_writeFraction {fraction : List Char} (h : ∀ c ∈ fraction, isDigit c = true)
    (e : Option Int) :
    readFraction (writeFraction fraction ++ writeExponent e) = some (fraction, writeExponent e) := by
  cases fraction with
  | nil =>
    cases e with
    | none => rfl
    | some e => rfl
  | cons c rest =>
    have taken := takeWhile_isDigit h (noDigit_writeExponent e)
    have left := dropWhile_isDigit h (noDigit_writeExponent e)
    simp only [writeFraction, List.isEmpty_cons, Bool.false_eq_true, if_false, List.cons_append,
      readFraction] at taken left ⊢
    rw [taken, left]

/-! ## The whole number -/

theorem write_eq (n : Number) :
    n.write = (if n.negative then ['-'] else []) ++
      (digits n.whole ++ (writeFraction n.fraction ++ writeExponent n.exponent)) := by
  rw [write, List.append_assoc, List.append_assoc]
  rfl

theorem readMagnitude_eq {fraction : List Char} (h : ∀ c ∈ fraction, isDigit c = true)
    (negative : Bool) (whole : Nat) (e : Option Int) :
    readMagnitude negative (digits whole ++ (writeFraction fraction ++ writeExponent e)) =
      some ⟨negative, whole, fraction, e⟩ := by
  have ends := noDigit_writeFraction fraction e
  have allDigits : ∀ c ∈ digits whole, isDigit c = true := fun _ => isDigit_of_mem_digits
  unfold readMagnitude
  dsimp only
  rw [takeWhile_isDigit allDigits ends, dropWhile_isDigit allDigits ends, isWhole_digits,
    readFraction_writeFraction h, valueOf_digits, Option.bind_eq_bind, Option.bind_eq_bind,
    Option.bind_some, readExponent_writeExponent]
  rfl

/-- A number is read from its text. -/
theorem read?_write {n : Number} (h : n.Proper) : read? n.write = some n := by
  obtain ⟨negative, whole, fraction, e⟩ := n
  rw [write_eq]
  cases negative with
  | true => exact readMagnitude_eq h true whole e
  | false =>
    obtain ⟨c, rest, eq, noMinus, -⟩ := exists_digits_eq whole
    have magnitude := readMagnitude_eq h false whole e
    simp only [Bool.false_eq_true, if_false, List.nil_append, eq, List.cons_append] at magnitude ⊢
    rw [read?]
    · exact magnitude
    · rintro rest' ⟨rfl, -⟩
      exact noMinus rfl

end Concordance.Json.Number
