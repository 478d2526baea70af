import Concordance.Proofs.Cluster.EndpointText
import Concordance.Proofs.Service.Step

/-!
# The two views of the load

The load can be asked for as a whole or for one endpoint by its text. Both views are read from
the same counters, but a text without a host is refused. So an endpoint without one, which a node
has that advertises an empty address, is listed but cannot be asked for.

* `Endpoint.read_display_of_host_eq_empty`: the text of an endpoint without a host is refused.
* `Command.used_run`: after every history that starts without load, the positive counters are
  listed.
* `ClusterService.Views`: how the two views agree.
* `Command.views_run`: they do after every history.
-/

namespace Concordance

/-- The text of an endpoint without a host is refused. -/
theorem Endpoint.read_display_of_host_eq_empty {e : Endpoint} (h : e.host = "") :
    read e.display = .error (.noHost e.display) := by
  rw [display_eq, h]
  exact read_of_noHost e.colon_notMem_port

namespace ClusterService

/-- The view of all endpoints and that of one of them agree, as far as the endpoint has a host. -/
structure Views (c : Coordinator) : Prop where
  /-- What is listed is found by its text, with the same count. -/
  found : ∀ entry ∈ (snapshot c).body.entries, entry.endpoint.host ≠ "" →
    load c entry.endpoint.display = ⟨.ok, ⟨entry.endpoint.display, some entry.load⟩⟩
  /-- An endpoint that is listed without a host is refused. -/
  refused : ∀ entry ∈ (snapshot c).body.entries, entry.endpoint.host = "" →
    load c entry.endpoint.display = ⟨.badRequest, ⟨entry.endpoint.display, none⟩⟩
  /-- A positive count that is found is listed under the text that comes with it. -/
  listed : ∀ text shown n, load c text = ⟨.ok, ⟨shown, some n⟩⟩ → 0 < n →
    ∃ entry ∈ (snapshot c).body.entries, entry.endpoint.display = shown ∧ entry.load = n

variable {c : Coordinator}

theorem load_of_read {text : String} {e : Endpoint} (h : Endpoint.read text = .ok e) :
    load c text = ⟨.ok, ⟨e.display, some (c.load.get e)⟩⟩ := by
  rw [load, h]

/-- An answer with a count is that for the endpoint that the text writes. -/
theorem exists_read_of_load {text shown : String} {n : UInt64}
    (h : load c text = ⟨.ok, ⟨shown, some n⟩⟩) :
    ∃ e, Endpoint.read text = .ok e ∧ e.display = shown ∧ c.load.get e = n := by
  unfold load at h
  split at h
  · next e eq =>
    cases h
    exact ⟨e, eq, rfl, rfl⟩
  · cases h

/-- The entries are the positive counters. -/
theorem mem_entries_iff (used : c.load.Used) {entry : LoadEntry} :
    entry ∈ (snapshot c).body.entries ↔ c.load.get entry.endpoint = entry.load ∧ 0 < entry.load := by
  rw [← LoadTable.mem_snapshot_iff used]
  obtain ⟨e, n⟩ := entry
  show _ ∈ c.load.snapshot.map (fun counter => LoadEntry.mk counter.1 counter.2) ↔ _
  rw [List.mem_map]
  constructor
  · rintro ⟨⟨_, _⟩, mem, same⟩
    cases same
    exact mem
  · exact fun mem => ⟨(e, n), mem, rfl⟩

theorem views_of_used (used : c.load.Used) : Views c where
  found entry mem host := by
    rw [load_of_read (Endpoint.read_display host), ((mem_entries_iff used).mp mem).1]
  refused entry _ host := by
    rw [load, Endpoint.read_display_of_host_eq_empty host]
  listed text shown n answer positive := by
    obtain ⟨e, -, shows, count⟩ := exists_read_of_load answer
    exact ⟨⟨e, n⟩, (mem_entries_iff used).mpr ⟨count, positive⟩, shows, rfl⟩

end ClusterService

namespace Command

/-- After a history that starts without load, every counter that is kept is positive. -/
theorem used_run {c : Coordinator} (start : c.load = ∅) (commands : List Command) :
    (run commands c).2.load.Used := by
  rw [load_run, start]
  exact LoadTable.used_charged LoadTable.used_empty _

/-- After every history of every cluster that starts without load the two views agree, but for
endpoints without a host, which cannot be asked for. -/
theorem views_run (localNode : Node) (peers : List Node) (placement : Placement) (port : UInt16)
    (commands : List Command) :
    ClusterService.Views (run commands ⟨placement, port, .withPeers localNode peers, ∅⟩).2 :=
  ClusterService.views_of_used (used_run rfl commands)

/-- A cluster whose only node advertises an empty address, after one piece of work. -/
def nameless : Coordinator := (run [.route "k1"] ⟨.new 1 1, 8100, .new (.new "a" [""]), ∅⟩).2

/-- An endpoint without a host is listed with its load, but its text is refused. -/
theorem snapshot_nameless : ⟨⟨"", 8100⟩, 1⟩ ∈ (ClusterService.snapshot nameless).body.entries ∧
    ClusterService.load nameless (Endpoint.mk "" 8100).display = ⟨.badRequest, ⟨":8100", none⟩⟩ ∧
    ¬ ∀ entry ∈ (ClusterService.snapshot nameless).body.entries,
      ClusterService.load nameless entry.endpoint.display =
        ⟨.ok, ⟨entry.endpoint.display, some entry.load⟩⟩ := by
  have listed : ⟨⟨"", 8100⟩, 1⟩ ∈ (ClusterService.snapshot nameless).body.entries := by
    decide +kernel
  have text : (Endpoint.mk "" 8100).display = ":8100" := by decide +kernel
  have refused : ClusterService.load nameless (Endpoint.mk "" 8100).display =
      ⟨.badRequest, ⟨":8100", none⟩⟩ := by
    rw [ClusterService.load, Endpoint.read_display_of_host_eq_empty rfl, text]
  refine ⟨listed, refused, fun found => ?_⟩
  have answer := found _ listed
  rw [refused] at answer
  cases answer

end Command

end Concordance
