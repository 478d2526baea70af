/-!
# Unsigned decimal integers

The text form of an unsigned integer of bounded size: one or more decimal digits,
with at most one plus sign in front and any number of leading zeros. A text that
is not of this form is refused at its first fault, read from the left.

* `Decimal.digits`: the form that numbers are written in.
* `Decimal.read`: the value of a text, or what is wrong with it.
* `Decimal.readFrom_eq_ok_iff`, `Decimal.read_digits`: which texts are read as a
  number, and that a written number is one of them.
-/

namespace Concordance.Decimal

/-- Why a text is not an integer of the wanted size. -/
inductive Fault
  | empty
  | invalidDigit
  | tooLarge
  deriving DecidableEq

/-- The wording of a fault. -/
def Fault.message : Fault → String
  | .empty => "cannot parse integer from empty string"
  | .invalidDigit => "invalid digit found in string"
  | .tooLarge => "number too large to fit in target type"

/-- The decimal digits of a number, most significant first. -/
def digits (n : Nat) : List Char := Nat.toDigits 10 n

/-- The value of a decimal digit. -/
def digit? (c : Char) : Option Nat :=
  if '0' ≤ c ∧ c ≤ '9' then some (c.toNat - '0'.toNat) else none

/-- Reads on from the value `acc`, where no value may exceed `bound`. -/
def readFrom (bound acc : Nat) : List Char → Except Fault Nat
  | [] => .ok acc
  | c :: rest =>
    match digit? c with
    | none => .error .invalidDigit
    | some d => if bound < 10 * acc + d then .error .tooLarge else readFrom bound (10 * acc + d) rest

/-- The value of a text as an integer of at most `bound`. -/
def read (bound : Nat) : List Char → Except Fault Nat
  | [] => .error .empty
  | ['+'] => .error .invalidDigit
  | '+' :: rest => readFrom bound 0 rest
  | text => readFrom bound 0 text

/-! ## What is read -/

theorem digit?_eq_some_iff {c : Char} {d : Nat} :
    digit? c = some d ↔ c.isDigit = true ∧ d = c.toNat - '0'.toNat := by
  have range : c.isDigit = true ↔ '0' ≤ c ∧ c ≤ '9' := by
    simp only [Char.isDigit, Bool.and_eq_true, decide_eq_true_eq]
    exact Iff.rfl
  rw [range, digit?]
  split
  · next inRange => simp only [inRange, Option.some.injEq, and_self, true_and, eq_comm]
  · next outside => simp only [reduceCtorEq, outside, false_and]

theorem le_ofDigitChars (text : List Char) (acc : Nat) : acc ≤ Nat.ofDigitChars 10 text acc := by
  induction text generalizing acc with
  | nil => simp
  | cons c rest ih =>
    rw [Nat.ofDigitChars_cons]
    exact Nat.le_trans (by omega) (ih _)

/-- A text of digits is read as the number that it writes, if that is not too large. -/
theorem readFrom_eq_ok_iff {bound acc n : Nat} {text : List Char} (h : acc ≤ bound) :
    readFrom bound acc text = .ok n ↔
      (∀ c ∈ text, c.isDigit = true) ∧ Nat.ofDigitChars 10 text acc = n ∧ n ≤ bound := by
  induction text generalizing acc with
  | nil => simp only [readFrom]; grind [Nat.ofDigitChars_nil]
  | cons c rest ih =>
    simp only [readFrom, List.mem_cons, forall_eq_or_imp, Nat.ofDigitChars_cons]
    cases hd : digit? c with
    | none =>
      have : ¬ c.isDigit = true := fun isDigit => by
        simp [digit?_eq_some_iff.mpr ⟨isDigit, rfl⟩] at hd
      simp [this]
    | some d =>
      obtain ⟨isDigit, rfl⟩ := digit?_eq_some_iff.mp hd
      by_cases large : bound < 10 * acc + (c.toNat - '0'.toNat)
      · have := le_ofDigitChars rest (10 * acc + (c.toNat - '0'.toNat))
        simp only [large, if_true, reduceCtorEq, false_iff]
        omega
      · simp only [large, if_false, isDigit, true_and, ih (Nat.le_of_not_lt large)]

theorem isDigit_of_mem_digits {n : Nat} {c : Char} (h : c ∈ digits n) : c.isDigit = true :=
  Nat.isDigit_of_mem_toDigits (by decide) (by decide) h

/-- What is written is read back. -/
theorem read_digits {bound n : Nat} (h : n ≤ bound) : read bound (digits n) = .ok n := by
  have isDigit : ∀ c ∈ digits n, c.isDigit = true := fun c hc => isDigit_of_mem_digits hc
  have value : readFrom bound 0 (digits n) = .ok n :=
    (readFrom_eq_ok_iff (Nat.zero_le _)).mpr
      ⟨isDigit, Nat.ofDigitChars_toDigits (by decide) (by decide), h⟩
  unfold read
  split
  · next eq => exact absurd eq Nat.toDigits_ne_nil
  · next eq => simp [eq] at isDigit
  · next eq => simp [eq] at isDigit
  · exact value

/-! ## Integers of fixed size -/

/-- Reads an integer of 16 bits. -/
def readUInt16 (text : List Char) : Except Fault UInt16 :=
  (read (UInt16.size - 1) text).map UInt16.ofNat

/-- Reads an integer of 32 bits. -/
def readUInt32 (text : List Char) : Except Fault UInt32 :=
  (read (UInt32.size - 1) text).map UInt32.ofNat

/-- Reads an integer of 64 bits. -/
def readUInt64 (text : List Char) : Except Fault UInt64 :=
  (read (UInt64.size - 1) text).map UInt64.ofNat

theorem readUInt16_digits (n : UInt16) : readUInt16 (digits n.toNat) = .ok n := by
  have bound : n.toNat ≤ UInt16.size - 1 := Nat.le_pred_of_lt n.toNat_lt_size
  rw [readUInt16, read_digits bound]
  simp [Except.map]

end Concordance.Decimal
