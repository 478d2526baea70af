import Concordance.Proofs.Json.Assembling
import Concordance.Wire.Record

/-!
# Types whose values come back from the wire

A type is lawful when the tree of each of its values is read as that value and has a
text. Texts, truth values and integers are, and lists, optional values and records are
when their parts are.

* `LawfulWire`: what is asked of a type.
* `LawfulWire.decode?_encode`: a value comes back from its text.
* `LawfulWire.of_record`: a record whose fields are found in its tree comes back.
-/

namespace Concordance

/-- Types whose values are read from the trees they are written as. -/
class LawfulWire (α : Type) [ToJson α] [OfJson α] : Prop where
  ofJson?_toJson (a : α) : ofJson? (toJson a) = some a
  proper_toJson (a : α) : (toJson a).Proper

/-- Types none of whose values is written as null. -/
class NeverNull (α : Type) [ToJson α] : Prop where
  toJson_ne_null (a : α) : toJson a ≠ .null

export LawfulWire (ofJson?_toJson proper_toJson)

attribute [simp] ofJson?_toJson proper_toJson

/-- A value comes back from its text. -/
theorem decode?_encode {α : Type} [ToJson α] [OfJson α] [LawfulWire α] (a : α) :
    decode? α (encode a) = some a := by
  rw [decode?, encode, Json.read?_write (proper_toJson a), Option.bind_some, ofJson?_toJson]

/-! ## Texts, truth values and integers -/

instance : LawfulWire String := ⟨fun _ => rfl, fun _ => .string _⟩

instance : NeverNull String := ⟨fun _ => nofun⟩

instance : LawfulWire Bool := ⟨fun _ => rfl, fun _ => .bool _⟩

/-- An integer in range comes back, from whichever type it was taken. -/
theorem map_integerIn?_ofInt {α : Type} {low high i : Int} {ofInt : Int → α} {a : α}
    (range : low ≤ i ∧ i ≤ high) (back : ofInt i = a) :
    (integerIn? low high (.number (.ofInt i))).map ofInt = some a := by
  simp [integerIn?, Json.Number.toInt?_ofInt, range, back]

instance : LawfulWire UInt16 where
  ofJson?_toJson n :=
    have := n.toNat_lt_size
    map_integerIn?_ofInt ⟨by omega, by omega⟩ UInt16.ofNat_toNat
  proper_toJson _ := .number (Json.Number.proper_ofInt _)

instance : LawfulWire UInt32 where
  ofJson?_toJson n :=
    have := n.toNat_lt_size
    map_integerIn?_ofInt ⟨by omega, by omega⟩ UInt32.ofNat_toNat
  proper_toJson _ := .number (Json.Number.proper_ofInt _)

instance : LawfulWire UInt64 where
  ofJson?_toJson n :=
    have := n.toNat_lt_size
    map_integerIn?_ofInt ⟨by omega, by omega⟩ UInt64.ofNat_toNat
  proper_toJson _ := .number (Json.Number.proper_ofInt _)

instance : LawfulWire Int64 where
  ofJson?_toJson n := map_integerIn?_ofInt ⟨n.minValue_le_toInt, n.toInt_le⟩ n.ofInt_toInt
  proper_toJson _ := .number (Json.Number.proper_ofInt _)

instance : NeverNull UInt64 := ⟨fun _ => nofun⟩

instance : NeverNull Int64 := ⟨fun _ => nofun⟩

/-! ## Optional values and lists -/

section

variable {α : Type} [ToJson α] [OfJson α] [LawfulWire α]

/-- A value that is there is read as such: its tree is not that of an absent one. -/
@[simp] theorem ofJson?_toJson_some [NeverNull α] (a : α) :
    ofJson? (toJson a) = some (some a) := by
  have read : ofJson? (α := Option α) (toJson a) = (ofJson? (toJson a)).map some := by
    have notNull := NeverNull.toJson_ne_null a
    generalize toJson a = j at notNull
    cases j with
    | null => exact absurd rfl notNull
    | bool | number | string | array | object => rfl
  rw [read, ofJson?_toJson, Option.map_some]

instance [NeverNull α] : LawfulWire (Option α) where
  ofJson?_toJson
    | none => rfl
    | some a => ofJson?_toJson_some a
  proper_toJson
    | none => .null
    | some a => proper_toJson a

instance : LawfulWire (List α) where
  ofJson?_toJson l := by
    have items : (l.map toJson).mapM ofJson? = some l := by
      induction l with
      | nil => rfl
      | cons a l ih =>
        rw [List.map_cons, List.mapM_cons, ofJson?_toJson, ih]
        rfl
    exact items
  proper_toJson l := .array fun j hj => by
    obtain ⟨a, -, rfl⟩ := List.mem_map.mp hj
    exact proper_toJson a

end

/-! ## Records -/

namespace Fields

/-- Members with known names that differ are all taken. -/
theorem foldlM_take {names : List String} {fields found : List (String × Json)}
    (distinct : (fields.map Prod.fst).Nodup) (known : ∀ field ∈ fields, field.1 ∈ names)
    (fresh : ∀ field ∈ fields, found.lookup field.1 = none) :
    (fields.map fun (name, value) => (some name, value)).foldlM (take names) found =
      some (fields.reverse ++ found) := by
  induction fields generalizing found with
  | nil => rfl
  | cons field fields ih =>
    obtain ⟨name, value⟩ := field
    obtain ⟨new, distinct⟩ := List.nodup_cons.mp distinct
    have taken : take names found (some name, value) = some ((name, value) :: found) := by
      have contained : names.contains name = true :=
        List.contains_iff_mem.mpr (known _ List.mem_cons_self)
      have absent : found.lookup name = none := fresh _ List.mem_cons_self
      rw [take, Option.bind_eq_bind, Option.bind_some, if_pos contained, absent]
      rfl
    have fresh' : ∀ other ∈ fields, ((name, value) :: found).lookup other.1 = none := by
      intro other ho
      have differs : (other.1 == name) = false :=
        beq_false_of_ne fun eq => new (List.mem_map.mpr ⟨other, ho, eq⟩)
      rw [List.lookup_cons, differs]
      exact fresh other (List.mem_cons_of_mem _ ho)
    rw [List.map_cons, List.foldlM_cons, taken, Option.bind_eq_bind, Option.bind_some,
      ih distinct (fun other ho => known other (List.mem_cons_of_mem _ ho)) fresh',
      List.reverse_cons, List.append_assoc, List.singleton_append]

theorem of?_record {names : List String} {fields : List (String × Json)}
    (distinct : (fields.map Prod.fst).Nodup) (known : ∀ field ∈ fields, field.1 ∈ names) :
    of? names (record fields) = some ⟨false, fields.reverse⟩ := by
  rw [record, of?, foldlM_take distinct known fun _ _ => rfl, Option.map_some, List.append_nil]

end Fields

/-- A record is lawful when its fields have different names, among those that are looked
for, and give the record again. -/
theorem LawfulWire.of_record {α : Type} [ToJson α] [OfJson α] {names : List String}
    {fields : α → List (String × Json)} {read : Fields → Option α}
    (written : ∀ a : α, toJson a = record (fields a))
    (reads : ∀ j, ofJson? j = (Fields.of? names j).bind read)
    (distinct : ∀ a, ((fields a).map Prod.fst).Nodup)
    (known : ∀ a, ∀ field ∈ fields a, field.1 ∈ names)
    (back : ∀ a, read ⟨false, (fields a).reverse⟩ = some a)
    (proper : ∀ a, ∀ field ∈ fields a, field.2.Proper) : LawfulWire α where
  ofJson?_toJson a := by
    rw [written, reads, Fields.of?_record (distinct a) (known a), Option.bind_some, back]
  proper_toJson a := by
    rw [written]
    refine .object fun member hm => ?_
    obtain ⟨field, hf, rfl⟩ := List.mem_map.mp hm
    exact proper a field hf

end Concordance
