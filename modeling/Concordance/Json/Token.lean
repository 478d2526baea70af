import Concordance.Json.Number

/-!
# The tokens of a JSON text

A JSON text is read from left to right, one character at a time, by a machine that
knows what kind of token it is inside of. White space separates tokens and means
nothing else.

* `Token.write`: the text of a token.
* `tokens?`: the tokens of a text.
-/

namespace Concordance.Json

/-- The smallest units of a JSON text. -/
inductive Token
  | openArray
  | closeArray
  | openObject
  | closeObject
  | colon
  | comma
  | null
  | bool (b : Bool)
  | number (n : Number)
  | string (s : Text)
  deriving DecidableEq

/-! ## Strings -/

/-- What one character or escape of a string contributes: a character, or a unit of
sixteen bits given by its number. -/
inductive Part
  | char (c : Char)
  | unit (u : Nat)
  deriving DecidableEq

/-- Whether a unit is the first half of a surrogate pair. -/
def isHighSurrogate (u : Nat) : Bool := 0xd800 ≤ u && u < 0xdc00

/-- Whether a unit is the second half of a surrogate pair. -/
def isLowSurrogate (u : Nat) : Bool := 0xdc00 ≤ u && u < 0xe000

/-- The text that the parts of a string make up: two halves of a surrogate pair that
stand side by side are one character, and no half may stand alone. -/
def join : List Part → Option (List Char)
  | [] => some []
  | .char c :: rest => (join rest).map (c :: ·)
  | .unit u :: rest =>
    if isHighSurrogate u then
      match rest with
      | .unit v :: rest' =>
        if isLowSurrogate v then
          (join rest').map (Char.ofNat (0x10000 + (u - 0xd800) * 0x400 + (v - 0xdc00)) :: ·)
        else none
      | _ => none
    else if isLowSurrogate u then none
    else (join rest).map (Char.ofNat u :: ·)

/-- What a one-letter escape stands for. -/
def escaped? : Char → Option Char
  | '"' => some '"'
  | '\\' => some '\\'
  | '/' => some '/'
  | 'b' => some '\x08'
  | 'f' => some '\x0c'
  | 'n' => some '\n'
  | 'r' => some '\r'
  | 't' => some '\t'
  | _ => none

/-- The value of a hexadecimal digit of either case. -/
def hexDigit? (c : Char) : Option Nat :=
  if '0' ≤ c ∧ c ≤ '9' then some (c.toNat - '0'.toNat)
  else if 'a' ≤ c ∧ c ≤ 'f' then some (c.toNat - 'a'.toNat + 10)
  else if 'A' ≤ c ∧ c ≤ 'F' then some (c.toNat - 'A'.toNat + 10)
  else none

/-- How a character is written inside a string: quotes, backslashes and controls are
escaped, all else stands for itself. -/
def escape (c : Char) : List Char :=
  match c with
  | '"' => ['\\', '"']
  | '\\' => ['\\', '\\']
  | '\x08' => ['\\', 'b']
  | '\x0c' => ['\\', 'f']
  | '\n' => ['\\', 'n']
  | '\r' => ['\\', 'r']
  | '\t' => ['\\', 't']
  | c =>
    if c < ' ' then
      ['\\', 'u', '0', '0', Nat.digitChar (c.toNat / 16), Nat.digitChar (c.toNat % 16)]
    else [c]

/-! ## Writing -/

/-- The text of a token. A string that is no text is written as half of a pair. -/
def Token.write : Token → List Char
  | .openArray => ['[']
  | .closeArray => [']']
  | .openObject => ['{']
  | .closeObject => ['}']
  | .colon => [':']
  | .comma => [',']
  | .null => ['n', 'u', 'l', 'l']
  | .bool true => ['t', 'r', 'u', 'e']
  | .bool false => ['f', 'a', 'l', 's', 'e']
  | .number n => n.write
  | .string (some s) => '"' :: s.toList.flatMap escape ++ ['"']
  | .string none => ['"', '\\', 'u', 'd', '8', '0', '0', '"']

/-! ## Reading -/

/-- Where in a token the reading stands. What was read of the token is held
backwards. -/
inductive Mode
  | between
  | word (letters : List Char)
  | number (chars : List Char)
  | string (parts : List Part)
  | escape (parts : List Part)
  /-- Inside a numeric escape, with `missing + 1` digits to come. -/
  | unit (parts : List Part) (value missing : Nat)

/-- The state of the reading: the tokens so far, backwards, and the unfinished one. -/
structure Lexer where
  mode : Mode
  tokens : List Token

/-- Whether `c` separates tokens. -/
def isSpace (c : Char) : Bool := c == ' ' || c == '\n' || c == '\t' || c == '\r'

/-- Whether `c` can stand in a word such as `null`. -/
def isLetter (c : Char) : Bool := 'a' ≤ c && c ≤ 'z'

/-- Whether `c` can stand in a number. -/
def isNumberChar (c : Char) : Bool :=
  Number.isDigit c || c == '-' || c == '+' || c == '.' || c == 'e' || c == 'E'

/-- The token that a word stands for. -/
def word? : List Char → Option Token
  | ['n', 'u', 'l', 'l'] => some .null
  | ['t', 'r', 'u', 'e'] => some (.bool true)
  | ['f', 'a', 'l', 's', 'e'] => some (.bool false)
  | _ => none

/-- The token that consists of the one character `c`. -/
def punctuation? : Char → Option Token
  | '[' => some .openArray
  | ']' => some .closeArray
  | '{' => some .openObject
  | '}' => some .closeObject
  | ':' => some .colon
  | ',' => some .comma
  | _ => none

/-- Reads a character that begins a token or stands between two. -/
def Lexer.begin (tokens : List Token) (c : Char) : Option Lexer :=
  if isSpace c then some ⟨.between, tokens⟩
  else if c = '"' then some ⟨.string [], tokens⟩
  else if isLetter c then some ⟨.word [c], tokens⟩
  else if isNumberChar c then some ⟨.number [c], tokens⟩
  else (punctuation? c).map fun t => ⟨.between, t :: tokens⟩

/-- Ends a word or number. Inside a string the text cannot end. -/
def Lexer.close (l : Lexer) : Option (List Token) :=
  match l.mode with
  | .between => some l.tokens
  | .word letters => (word? letters.reverse).map (· :: l.tokens)
  | .number chars => (Number.read? chars.reverse).map (.number · :: l.tokens)
  | .string _ | .escape _ | .unit .. => none

/-- Reads one character. -/
def Lexer.step (l : Lexer) (c : Char) : Option Lexer :=
  match l.mode with
  | .between => begin l.tokens c
  | .word letters =>
    if isLetter c then some ⟨.word (c :: letters), l.tokens⟩ else l.close.bind (begin · c)
  | .number chars =>
    if isNumberChar c then some ⟨.number (c :: chars), l.tokens⟩ else l.close.bind (begin · c)
  | .string parts =>
    if c = '"' then some ⟨.between, .string ((join parts.reverse).map String.ofList) :: l.tokens⟩
    else if c = '\\' then some ⟨.escape parts, l.tokens⟩
    else if c < ' ' then none
    else some ⟨.string (.char c :: parts), l.tokens⟩
  | .escape parts =>
    if c = 'u' then some ⟨.unit parts 0 3, l.tokens⟩
    else (escaped? c).map fun e => ⟨.string (.char e :: parts), l.tokens⟩
  | .unit parts value missing =>
    (hexDigit? c).map fun d =>
      match missing with
      | 0 => ⟨.string (.unit (16 * value + d) :: parts), l.tokens⟩
      | missing + 1 => ⟨.unit parts (16 * value + d) missing, l.tokens⟩

/-- The tokens of a text. -/
def tokens? (text : List Char) : Option (List Token) := do
  let l ← text.foldlM Lexer.step ⟨.between, []⟩
  return (← l.close).reverse

end Concordance.Json
