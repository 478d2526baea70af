import Concordance.Text.Blank
import Concordance.Text.Lowercase

/-!
# Languages

The languages that texts are written in, with the codes that name them.

* `Language.read`: a language from its code, in any case and between blanks.
-/

namespace Concordance

open Std

/-- The language of a text. -/
inductive Language
  | en
  | ru
  | de
  deriving DecidableEq, Inhabited

namespace Language

/-- Every language, in order. -/
def all : List Language := [en, ru, de]

/-- The place of a language in the order. -/
def rank : Language → Nat
  | en => 0
  | ru => 1
  | de => 2

instance : Ord Language := ⟨compareOn rank⟩

instance : TransOrd Language := inferInstanceAs (TransCmp (compareOn rank))

theorem eq_of_rank_eq {a b : Language} (h : a.rank = b.rank) : a = b := by
  cases a <;> cases b <;> simp_all [rank]

instance : LawfulEqOrd Language where
  eq_of_compare h := eq_of_rank_eq (LawfulEqOrd.eq_of_compare (α := Nat) h)

/-- The code of a language. -/
def code : Language → String
  | en => "en"
  | ru => "ru"
  | de => "de"

/-- The language of a code. -/
def ofCode? : String → Option Language
  | "en" => some en
  | "ru" => some ru
  | "de" => some de
  | _ => none

@[simp] theorem ofCode?_code (l : Language) : ofCode? l.code = some l := by cases l <;> rfl

/-- The form in which a code is looked up: without blanks around it and in small
letters. Only ASCII letters are lowered. -/
def normalizeCode (text : String) : String :=
  String.ofList (Text.asciiLowercase (Text.trim text.toList))

/-- The language that a text names, or why it names none. -/
def read (text : String) : Except String Language :=
  match ofCode? (normalizeCode text) with
  | some language => .ok language
  | none => .error s!"unknown language code '{normalizeCode text}'"

end Language

end Concordance
