import Concordance.Proofs.Wire.Lawful
import Concordance.Wire.Cluster
import Concordance.Wire.Documents
import Concordance.Wire.Settings

/-!
# What is sent is received

Nodes, routes, articles, facet values and peers, and the requests and responses of both
services come back from their texts, whichever of their optional parts are absent and
whatever characters their texts hold. Responses that carry a score are not among them:
a number with a fraction is rounded when it is read.

* `RoundTrips`: the values of a type come back.
* `roundTrips_wire`: those of all these types do.
-/

namespace Concordance

/-! ## Names and alternatives -/

instance : LawfulWire NodeState where
  ofJson?_toJson := NodeState.ofName?_name
  proper_toJson _ := .string _

instance : LawfulWire Language where
  ofJson?_toJson := Language.ofCode?_code
  proper_toJson _ := .string _

theorem proper_tagged {content : Json} (h : content.Proper) (tag : String) :
    (tagged tag content).Proper := .object fun _ hm => List.mem_singleton.mp hm ▸ h

instance : LawfulWire FacetValue where
  ofJson?_toJson
    | .text s => congrArg (·.bind fun s => some (FacetValue.text s)) (ofJson?_toJson s)
    | .integer n => congrArg (·.bind fun n => some (FacetValue.integer n)) (ofJson?_toJson n)
    | .boolean b => congrArg (·.bind fun b => some (FacetValue.boolean b)) (ofJson?_toJson b)
  proper_toJson
    | .text s => proper_tagged (proper_toJson s) _
    | .integer n => proper_tagged (proper_toJson n) _
    | .boolean b => proper_tagged (proper_toJson b) _

/-! ## Records of the cluster -/

instance : LawfulWire Node :=
  .of_record (fun _ => rfl) (fun _ => rfl) (by simp) (by simp)
    (by simp [Fields.required, List.lookup_cons]) (by simp)

instance : NeverNull Node := ⟨fun _ => nofun⟩

instance : LawfulWire Endpoint :=
  .of_record (fun _ => rfl) (fun _ => rfl) (by simp) (by simp)
    (by simp [Fields.required, List.lookup_cons]) (by simp)

instance : NeverNull Endpoint := ⟨fun _ => nofun⟩

instance : LawfulWire Route :=
  .of_record (fun _ => rfl) (fun _ => rfl) (by simp) (by simp)
    (by simp [Fields.required, List.lookup_cons]) (by simp)

instance : LawfulWire RouteRequest :=
  .of_record (fun _ => rfl) (fun _ => rfl) (by simp) (by simp)
    (by simp [Fields.required]) (by simp)

/-- The error is the one field that is left out when it is absent. -/
instance : LawfulWire RouteResponse := by
  refine .of_record (fun _ => rfl) (fun _ => rfl) ?distinct ?known ?back ?proper
  all_goals
    rintro ⟨key, partition, node, endpoint, load, _ | message⟩
    all_goals simp [Fields.required, Fields.optional, Fields.orElse, unlessAbsent, List.lookup_cons]

instance : LawfulWire LoadResponse :=
  .of_record (fun _ => rfl) (fun _ => rfl) (by simp) (by simp)
    (by simp [Fields.required, Fields.optional, List.lookup_cons]) (by simp)

instance : LawfulWire LoadEntry :=
  .of_record (fun _ => rfl) (fun _ => rfl) (by simp) (by simp)
    (by simp [Fields.required, List.lookup_cons]) (by simp)

instance : LawfulWire SnapshotResponse :=
  .of_record (fun _ => rfl) (fun _ => rfl) (by simp) (by simp)
    (by simp [Fields.required]) (by simp)

instance : LawfulWire NodesResponse :=
  .of_record (fun _ => rfl) (fun _ => rfl) (by simp) (by simp)
    (by simp [Fields.required, List.lookup_cons]) (by simp)

instance : LawfulWire Peer :=
  .of_record (fun _ => rfl) (fun _ => rfl) (by simp) (by simp)
    (by simp [Fields.required, List.lookup_cons]) (by simp)

/-! ## Records of documents and searches -/

instance : LawfulWire Article :=
  .of_record (fun _ => rfl) (fun _ => rfl) (by simp) (by simp)
    (by simp [Fields.required, Fields.orElse, List.lookup_cons]) (by simp)

instance : LawfulWire SimilarityRequest :=
  .of_record (fun _ => rfl) (fun _ => rfl) (by simp) (by simp)
    (by simp [Fields.required, List.lookup_cons]) (by simp)

instance : LawfulWire RankRequest :=
  .of_record (fun _ => rfl) (fun _ => rfl) (by simp) (by simp)
    (by simp [Fields.required, Fields.optional, List.lookup_cons]) (by simp)

instance : LawfulWire WordsRequest :=
  .of_record (fun _ => rfl) (fun _ => rfl) (by simp) (by simp)
    (by simp [Fields.required, List.lookup_cons]) (by simp)

instance : LawfulWire WordsResponse :=
  .of_record (fun _ => rfl) (fun _ => rfl) (by simp) (by simp)
    (by simp [Fields.required, List.lookup_cons]) (by simp)

/-! ## Round trips -/

/-- Every value comes back from its text. So what any text gives is given again by the text
that it is written as. -/
def RoundTrips (α : Type) [ToJson α] [OfJson α] : Prop :=
  (∀ a : α, decode? α (encode a) = some a) ∧
    ∀ (text : String) (a : α), decode? α text = some a → decode? α (encode a) = some a

theorem roundTrips (α : Type) [ToJson α] [OfJson α] [LawfulWire α] : RoundTrips α :=
  ⟨decode?_encode, fun _ a _ => decode?_encode a⟩

/-- Nothing that the services send or receive, but for scores, is changed on the wire. -/
theorem roundTrips_wire :
    (RoundTrips DocumentId ∧ RoundTrips FacetValue ∧ RoundTrips Language ∧ RoundTrips Article) ∧
    (RoundTrips SimilarityRequest ∧ RoundTrips RankRequest ∧ RoundTrips WordsRequest ∧
      RoundTrips WordsResponse) ∧
    (RoundTrips NodeId ∧ RoundTrips NodeState ∧ RoundTrips Node ∧ RoundTrips Endpoint ∧
      RoundTrips Route ∧ RoundTrips Peer) ∧
    RoundTrips RouteRequest ∧ RoundTrips RouteResponse ∧ RoundTrips LoadResponse ∧
      RoundTrips LoadEntry ∧ RoundTrips SnapshotResponse ∧ RoundTrips NodesResponse :=
  ⟨⟨roundTrips _, roundTrips _, roundTrips _, roundTrips _⟩,
    ⟨roundTrips _, roundTrips _, roundTrips _, roundTrips _⟩,
    ⟨roundTrips _, roundTrips _, roundTrips _, roundTrips _, roundTrips _, roundTrips _⟩,
    roundTrips _, roundTrips _, roundTrips _, roundTrips _, roundTrips _, roundTrips _⟩

-- Quotes and controls are escaped, all else stands for itself.
example : encode (Endpoint.mk "a\"\n\x01é" 80) =
    "\x7b\"host\":\"a\\\"\\n\\u0001é\",\"port\":80\x7d" := by decide +kernel

end Concordance
