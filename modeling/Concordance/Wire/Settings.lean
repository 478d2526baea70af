import Concordance.Settings.Basic
import Concordance.Wire.Documents

/-!
# Settings on the wire

The JSON forms of peers and settings. In the settings every field may be left out
and then has its standard value.
-/

namespace Concordance

instance : ToJson Net.SocketAddress := ⟨fun a => .string (some a.write)⟩

instance : OfJson Net.SocketAddress where
  ofJson?
    | .string s => s.bind Net.SocketAddress.read?
    | _ => none

instance : ToJson Peer where
  toJson p := record [("id", toJson p.id), ("addresses", toJson p.addresses)]

instance : OfJson Peer where
  ofJson? j := do
    let fields ← Fields.of? ["id", "addresses"] j
    return { id := ← fields.required "id", addresses := ← fields.required "addresses" }

instance : ToJson Settings where
  toJson s := record [
    ("bind", toJson s.bind), ("analytics_port", toJson s.analyticsPort),
    ("default_language", toJson s.defaultLanguage), ("num_partitions", toJson s.numPartitions),
    ("replication_factor", toJson s.replicationFactor),
    ("report_interval_secs", toJson s.reportIntervalSecs), ("node_id", toJson s.nodeId),
    ("peers", toJson s.peers)]

instance : OfJson Settings where
  ofJson? j := do
    let fields ← Fields.of? ["bind", "analytics_port", "default_language", "num_partitions",
      "replication_factor", "report_interval_secs", "node_id", "peers"] j
    let standard := Settings.standard
    return {
      bind := ← fields.orElse "bind" standard.bind
      analyticsPort := ← fields.orElse "analytics_port" standard.analyticsPort
      defaultLanguage := ← fields.orElse "default_language" standard.defaultLanguage
      numPartitions := ← fields.orElse "num_partitions" standard.numPartitions
      replicationFactor := ← fields.orElse "replication_factor" standard.replicationFactor
      reportIntervalSecs := ← fields.orElse "report_interval_secs" standard.reportIntervalSecs
      nodeId := ← fields.orElse "node_id" standard.nodeId
      peers := ← fields.orElse "peers" standard.peers }

end Concordance
