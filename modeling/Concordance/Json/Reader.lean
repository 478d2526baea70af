import Concordance.Json.Token

/-!
# Reading and writing JSON

The tokens of a text are put together by a machine with a stack of unfinished
arrays and objects. Writing a value gives its tokens, without space between them.

* `Json.tokens`: the tokens of a value.
* `Json.assemble?`: the value that tokens make up.
* `Json.write`, `Json.read?`: the same between values and texts.
-/

namespace Concordance.Json

/-! ## Writing -/

mutual

/-- The tokens of a value. -/
def tokens : Json → List Token
  | .null => [.null]
  | .bool b => [.bool b]
  | .number n => [.number n]
  | .string s => [.string s]
  | .array [] => [.openArray, .closeArray]
  | .array (item :: rest) => .openArray :: (tokens item ++ itemTokens rest)
  | .object [] => [.openObject, .closeObject]
  | .object ((key, value) :: rest) =>
    .openObject :: .string key :: .colon :: (tokens value ++ memberTokens rest)

/-- The tokens of the items after the first one, to the end of the array. -/
def itemTokens : List Json → List Token
  | [] => [.closeArray]
  | item :: rest => .comma :: (tokens item ++ itemTokens rest)

/-- The tokens of the members after the first one, to the end of the object. -/
def memberTokens : List (Text × Json) → List Token
  | [] => [.closeObject]
  | (key, value) :: rest => .comma :: .string key :: .colon :: (tokens value ++ memberTokens rest)

end

/-- The text of a value. -/
def write (j : Json) : String := String.ofList (j.tokens.flatMap Token.write)

/-! ## Reading -/

/-- An array or object that has begun. What is finished of it is held backwards. -/
inductive Frame
  | array (items : List Json)
  | object (members : List (Text × Json))
  /-- An object whose next member has its key but not its value. -/
  | member (members : List (Text × Json)) (key : Text)

/-- What may come next. -/
inductive Stage
  | value
  /-- A value, or the end of an array without items. -/
  | firstItem
  /-- A key, or the end of an object without members. -/
  | firstKey
  | key
  | colon
  /-- A comma, or the end of the innermost array or object. -/
  | more
  /-- Nothing: the value is complete. -/
  | done (j : Json)

/-- The state of the reading. -/
structure Assembly where
  stage : Stage
  frames : List Frame

/-- Hands a finished value to the innermost array or object. -/
def Assembly.deliver (j : Json) : List Frame → Option Assembly
  | [] => some ⟨.done j, []⟩
  | .array items :: rest => some ⟨.more, .array (j :: items) :: rest⟩
  | .member members key :: rest => some ⟨.more, .object ((key, j) :: members) :: rest⟩
  | .object _ :: _ => none

/-- Reads a token where a value has to begin. -/
def Assembly.beginValue (frames : List Frame) : Token → Option Assembly
  | .null => deliver .null frames
  | .bool b => deliver (.bool b) frames
  | .number n => deliver (.number n) frames
  | .string s => deliver (.string s) frames
  | .openArray => some ⟨.firstItem, .array [] :: frames⟩
  | .openObject => some ⟨.firstKey, .object [] :: frames⟩
  | _ => none

/-- Reads one token. -/
def Assembly.step (a : Assembly) (t : Token) : Option Assembly :=
  match a.stage, t, a.frames with
  | .value, t, frames => beginValue frames t
  | .firstItem, .closeArray, .array items :: rest => deliver (.array items.reverse) rest
  | .firstItem, t, frames => beginValue frames t
  | .firstKey, .closeObject, .object members :: rest => deliver (.object members.reverse) rest
  | .firstKey, .string key, .object members :: rest => some ⟨.colon, .member members key :: rest⟩
  | .key, .string key, .object members :: rest => some ⟨.colon, .member members key :: rest⟩
  | .colon, .colon, frames => some ⟨.value, frames⟩
  | .more, .comma, .array items :: rest => some ⟨.value, .array items :: rest⟩
  | .more, .comma, .object members :: rest => some ⟨.key, .object members :: rest⟩
  | .more, .closeArray, .array items :: rest => deliver (.array items.reverse) rest
  | .more, .closeObject, .object members :: rest => deliver (.object members.reverse) rest
  | _, _, _ => none

/-- The one value that a list of tokens makes up. -/
def assemble? (ts : List Token) : Option Json := do
  let a ← ts.foldlM Assembly.step ⟨.value, []⟩
  match a.stage with
  | .done j => some j
  | _ => none

/-- The value of a text. -/
def read? (text : String) : Option Json := (tokens? text.toList).bind assemble?

end Concordance.Json
