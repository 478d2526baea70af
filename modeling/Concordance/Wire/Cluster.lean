import Concordance.Service.Cluster
import Concordance.Wire.Record

/-!
# The cluster on the wire

The JSON forms of nodes, endpoints and routes, and of the requests and responses of
the cluster service.
-/

namespace Concordance

/-- The name of a state. -/
def NodeState.name : NodeState → String
  | .alive => "Alive"
  | .suspect => "Suspect"
  | .dead => "Dead"

/-- The state that a name stands for. -/
def NodeState.ofName? : String → Option NodeState
  | "Alive" => some .alive
  | "Suspect" => some .suspect
  | "Dead" => some .dead
  | _ => none

@[simp] theorem NodeState.ofName?_name (s : NodeState) : ofName? s.name = some s := by
  cases s <;> rfl

instance : ToJson NodeState := ⟨fun s => .string (some s.name)⟩

instance : OfJson NodeState := ⟨fun j => (bareTag? j).bind NodeState.ofName?⟩

instance : ToJson Node where
  toJson n := record [
    ("id", toJson n.id), ("addresses", toJson n.addresses), ("state", toJson n.state)]

instance : OfJson Node where
  ofJson? j := do
    let fields ← Fields.of? ["id", "addresses", "state"] j
    return {
      id := ← fields.required "id"
      addresses := ← fields.required "addresses"
      state := ← fields.required "state" }

instance : ToJson Endpoint where
  toJson e := record [("host", toJson e.host), ("port", toJson e.port)]

instance : OfJson Endpoint where
  ofJson? j := do
    let fields ← Fields.of? ["host", "port"] j
    return { host := ← fields.required "host", port := ← fields.required "port" }

instance : ToJson Route where
  toJson r := record [
    ("node", toJson r.node), ("endpoint", toJson r.endpoint), ("load", toJson r.load)]

instance : OfJson Route where
  ofJson? j := do
    let fields ← Fields.of? ["node", "endpoint", "load"] j
    return {
      node := ← fields.required "node"
      endpoint := ← fields.required "endpoint"
      load := ← fields.required "load" }

/-! ## Requests and responses -/

instance : ToJson RouteRequest where
  toJson r := record [("key", toJson r.key)]

instance : OfJson RouteRequest where
  ofJson? j := do
    let fields ← Fields.of? ["key"] j
    return { key := ← fields.required "key" }

instance : ToJson RouteResponse where
  toJson r := record <| [
    ("key", toJson r.key), ("partition", toJson r.partition), ("node", toJson r.node),
    ("endpoint", toJson r.endpoint), ("load", toJson r.load)] ++ unlessAbsent "error" r.error

instance : OfJson RouteResponse where
  ofJson? j := do
    let fields ← Fields.of? ["key", "partition", "node", "endpoint", "load", "error"] j
    return {
      key := ← fields.required "key"
      partition := ← fields.required "partition"
      node := ← fields.optional "node"
      endpoint := ← fields.optional "endpoint"
      load := ← fields.optional "load"
      error := ← fields.orElse "error" none }

instance : ToJson LoadResponse where
  toJson r := record [("endpoint", toJson r.endpoint), ("load", toJson r.load)]

instance : OfJson LoadResponse where
  ofJson? j := do
    let fields ← Fields.of? ["endpoint", "load"] j
    return { endpoint := ← fields.required "endpoint", load := ← fields.optional "load" }

instance : ToJson LoadEntry where
  toJson e := record [("endpoint", toJson e.endpoint), ("load", toJson e.load)]

instance : OfJson LoadEntry where
  ofJson? j := do
    let fields ← Fields.of? ["endpoint", "load"] j
    return { endpoint := ← fields.required "endpoint", load := ← fields.required "load" }

instance : ToJson SnapshotResponse where
  toJson r := record [("entries", toJson r.entries)]

instance : OfJson SnapshotResponse where
  ofJson? j := do
    let fields ← Fields.of? ["entries"] j
    return { entries := ← fields.required "entries" }

instance : ToJson NodesResponse where
  toJson r := record [("alive_count", toJson r.aliveCount), ("members", toJson r.members)]

instance : OfJson NodesResponse where
  ofJson? j := do
    let fields ← Fields.of? ["alive_count", "members"] j
    return { aliveCount := ← fields.required "alive_count", members := ← fields.required "members" }

end Concordance
