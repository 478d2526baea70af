import Concordance.Json.Reader

/-!
# Values on the wire

Values travel as JSON. Each type says how a value is written and which trees are
read as one of its values.

* `encode`, `decode?`: a value as the text of its tree, and back.
-/

namespace Concordance

/-- Types whose values are written as JSON. -/
class ToJson (α : Type) where
  toJson : α → Json

/-- Types whose values are read from JSON. -/
class OfJson (α : Type) where
  ofJson? : Json → Option α

export ToJson (toJson)
export OfJson (ofJson?)

/-- The JSON text of a value. -/
def encode {α : Type} [ToJson α] (a : α) : String := (toJson a).write

/-- The value that a JSON text gives, if it gives one. -/
def decode? (α : Type) [OfJson α] (text : String) : Option α := (Json.read? text).bind ofJson?

/-! ## Texts and truth values -/

instance : ToJson String := ⟨fun s => .string (some s)⟩

instance : OfJson String where
  ofJson?
    | .string s => s
    | _ => none

instance : ToJson Bool := ⟨.bool⟩

instance : OfJson Bool where
  ofJson?
    | .bool b => some b
    | _ => none

/-! ## Numbers -/

/-- The integer from `low` to `high` that a tree is. -/
def integerIn? (low high : Int) : Json → Option Int
  | .number n => n.toInt?.filter fun i => low ≤ i && i ≤ high
  | _ => none

instance : ToJson UInt16 := ⟨fun n => .number (.ofInt n.toNat)⟩

instance : OfJson UInt16 := ⟨fun j => (integerIn? 0 (UInt16.size - 1) j).map fun i => .ofNat i.toNat⟩

instance : ToJson UInt32 := ⟨fun n => .number (.ofInt n.toNat)⟩

instance : OfJson UInt32 := ⟨fun j => (integerIn? 0 (UInt32.size - 1) j).map fun i => .ofNat i.toNat⟩

instance : ToJson UInt64 := ⟨fun n => .number (.ofInt n.toNat)⟩

instance : OfJson UInt64 := ⟨fun j => (integerIn? 0 (UInt64.size - 1) j).map fun i => .ofNat i.toNat⟩

instance : ToJson Int64 := ⟨fun n => .number (.ofInt n.toInt)⟩

instance : OfJson Int64 where
  ofJson? j := (integerIn? Int64.minValue.toInt Int64.maxValue.toInt j).map .ofInt

instance : OfJson Float where
  ofJson?
    | .number n => n.toFloat?
    | _ => none

/-! ## Optional values and lists -/

instance {α : Type} [ToJson α] : ToJson (Option α) where
  toJson
    | none => .null
    | some a => toJson a

instance {α : Type} [OfJson α] : OfJson (Option α) where
  ofJson?
    | .null => some none
    | j => (ofJson? j).map some

instance {α : Type} [ToJson α] : ToJson (List α) := ⟨fun l => .array (l.map toJson)⟩

instance {α : Type} [OfJson α] : OfJson (List α) where
  ofJson?
    | .array items => items.mapM ofJson?
    | _ => none

/-! ## Alternatives -/

/-- The tree of the alternative `tag` that carries `content`. -/
def tagged (tag : String) (content : Json) : Json := .object [(some tag, content)]

/-- The name of an alternative that carries nothing: written alone, or as the one
member of an object with the value null. -/
def bareTag? : Json → Option String
  | .string s => s
  | .object [(key, .null)] => key
  | _ => none

/-- The name and the content of an alternative that carries something. -/
def contentTag? : Json → Option (String × Json)
  | .object [(key, content)] => key.map fun tag => (tag, content)
  | _ => none

end Concordance
