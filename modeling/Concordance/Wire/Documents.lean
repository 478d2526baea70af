import Concordance.Service.Search
import Concordance.Wire.Record

/-!
# Documents and searches on the wire

The JSON forms of languages, facet values and articles, and of the requests and
responses of the search service. Responses with scores are only read.
-/

namespace Concordance

instance : ToJson Language := ⟨fun l => .string (some l.code)⟩

instance : OfJson Language := ⟨fun j => (bareTag? j).bind Language.ofCode?⟩

/-- The name of a kind of value. -/
def ValueKind.name : ValueKind → String
  | .text => "Text"
  | .word => "Word"
  | .integer => "Integer"
  | .boolean => "Boolean"

/-- The kind of value that a name stands for. -/
def ValueKind.ofName? : String → Option ValueKind
  | "Text" => some .text
  | "Word" => some .word
  | "Integer" => some .integer
  | "Boolean" => some .boolean
  | _ => none

@[simp] theorem ValueKind.ofName?_name (k : ValueKind) : ofName? k.name = some k := by
  cases k <;> rfl

instance : ToJson ValueKind := ⟨fun k => .string (some k.name)⟩

instance : OfJson ValueKind := ⟨fun j => (bareTag? j).bind ValueKind.ofName?⟩

instance : ToJson FacetValue where
  toJson
    | .text s => tagged "Text" (toJson s)
    | .integer n => tagged "Integer" (toJson n)
    | .boolean b => tagged "Boolean" (toJson b)

instance : OfJson FacetValue where
  ofJson? j := do
    match ← contentTag? j with
    | ("Text", content) => return .text (← ofJson? content)
    | ("Integer", content) => return .integer (← ofJson? content)
    | ("Boolean", content) => return .boolean (← ofJson? content)
    | _ => none

instance : ToJson Article where
  toJson a := record [
    ("id", toJson a.id), ("language", toJson a.language), ("title", toJson a.title),
    ("body", toJson a.body), ("author", toJson a.author), ("year", toJson a.year)]

instance : OfJson Article where
  ofJson? j := do
    let fields ← Fields.of? ["id", "language", "title", "body", "author", "year"] j
    return {
      id := ← fields.required "id"
      language := ← fields.required "language"
      title := ← fields.required "title"
      body := ← fields.required "body"
      author := ← fields.orElse "author" none
      year := ← fields.orElse "year" none }

/-! ## Requests -/

instance : ToJson SimilarityRequest where
  toJson r := record [("left", toJson r.left), ("right", toJson r.right)]

instance : OfJson SimilarityRequest where
  ofJson? j := do
    let fields ← Fields.of? ["left", "right"] j
    return { left := ← fields.required "left", right := ← fields.required "right" }

instance : ToJson RankRequest where
  toJson r := record [
    ("query", toJson r.query), ("candidates", toJson r.candidates), ("limit", toJson r.limit)]

instance : OfJson RankRequest where
  ofJson? j := do
    let fields ← Fields.of? ["query", "candidates", "limit"] j
    return {
      query := ← fields.required "query"
      candidates := ← fields.required "candidates"
      limit := ← fields.optional "limit" }

instance : ToJson WordsRequest where
  toJson r := record [("text", toJson r.text), ("language", toJson r.language)]

instance : OfJson WordsRequest where
  ofJson? j := do
    let fields ← Fields.of? ["text", "language"] j
    return { text := ← fields.required "text", language := ← fields.required "language" }

/-! ## Responses -/

instance : ToJson WordsResponse where
  toJson r := record [("language", toJson r.language), ("words", toJson r.words)]

instance : OfJson WordsResponse where
  ofJson? j := do
    let fields ← Fields.of? ["language", "words"] j
    return { language := ← fields.required "language", words := ← fields.required "words" }

instance : OfJson Hit where
  ofJson? j := do
    let fields ← Fields.of? ["document_id", "score"] j
    return { document := ← fields.required "document_id", score := ← fields.required "score" }

instance : OfJson SimilarityResponse where
  ofJson? j := do
    let fields ← Fields.of? ["left_id", "right_id", "score", "error"] j
    return {
      leftId := ← fields.required "left_id"
      rightId := ← fields.required "right_id"
      score := ← fields.optional "score"
      error := ← fields.orElse "error" none }

instance : OfJson RankResponse where
  ofJson? j := do
    let fields ← Fields.of? ["query_id", "total_count", "count", "results", "error"] j
    let totalCount : UInt64 ← fields.required "total_count"
    let count : UInt64 ← fields.required "count"
    return {
      queryId := ← fields.required "query_id"
      totalCount := totalCount.toNat
      count := count.toNat
      results := ← fields.required "results"
      error := ← fields.orElse "error" none }

end Concordance
