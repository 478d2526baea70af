import Concordance.Text.Printable

/-!
# Quoted text for diagnostics

A text is shown between double quotes, with everything escaped that would end the
quotation, that has no glyph of its own, or that would be drawn onto another
character.

* `escape`: how one character is shown.
* `quote`: how a text is shown.
-/

namespace Concordance.Text

/-- A character as the braced hexadecimal number of its code point. -/
def escapeCode (c : Char) : List Char :=
  ['\\', 'u', '{'] ++ Nat.toDigits 16 c.toNat ++ ['}']

/-- How a character is shown inside double quotes. -/
def escape (c : Char) : List Char :=
  match c with
  | '\x00' => ['\\', '0']
  | '\t' => ['\\', 't']
  | '\r' => ['\\', 'r']
  | '\n' => ['\\', 'n']
  | '"' => ['\\', '"']
  | '\\' => ['\\', '\\']
  | c => if isOverlaid c || !isPrintable c then escapeCode c else [c]

/-- A text between double quotes. -/
def quote (text : List Char) : List Char := '"' :: text.flatMap escape ++ ['"']

end Concordance.Text
