import Concordance.Proofs.Service.Step

/-!
# Conservation of load

In a history that starts without load, the counters count the work that was sent and
recorded, endpoint by endpoint, and nothing else.

* `Command.Conserved`: what is kept account of in a history.
* `Command.run_conserved`: every history without a full counter keeps it.
-/

namespace Concordance.Command

open LoadTable (maxCount)

/-! ## Charges of a history -/

theorem filterMap_recorded?_cons (command : Command) (rest : List Command) :
    (command :: rest).filterMap recorded? =
      command.recorded?.toList ++ rest.filterMap recorded? := by
  rw [List.filterMap_cons]
  cases command.recorded? <;> rfl

theorem count_runCharges (commands : List Command) (c : Coordinator) (e : Endpoint) :
    (runCharges commands (run commands c).1).count e =
      (Answer.sentTo (run commands c).1).count e +
        (commands.filterMap recorded?).count e := by
  induction commands generalizing c with
  | nil => rfl
  | cons command rest ih =>
    rw [run_cons, runCharges_cons, charges, Answer.sentTo_cons, filterMap_recorded?_cons]
    simp only [List.count_append]
    rw [ih]
    omega

/-- The charges of a history, in another order: what was sent, then what was recorded. -/
theorem runCharges_perm (commands : List Command) (c : Coordinator) :
    (runCharges commands (run commands c).1).Perm
      (Answer.sentTo (run commands c).1 ++ commands.filterMap recorded?) := by
  refine List.perm_iff_count.mpr fun e => ?_
  rw [count_runCharges, List.count_append]

/-! ## One routing -/

/-- The command reports the counter before it and charges that one counter once, or it
fails and changes neither the load nor the members. -/
def ChargesOnce (command : Command) (c : Coordinator) : Prop :=
  let next := (perform command c).2
  match (perform command c).1.sent? with
  | some (e, n) => n = c.load.get e ∧ (next.load.get e).toNat = n.toNat + 1 ∧
      ∀ e', e' ≠ e → next.load.get e' = c.load.get e'
  | none => (perform command c).1.Failed ∧ next.load = c.load ∧ next.membership = c.membership

/-- A command that asks for a route charges once, unless the counter was full. -/
theorem chargesOnce_of_key {command : Command} {c : Coordinator} {key : String}
    (asked : command.key? = some key) (fits : ∀ e, c.load.get e ≠ maxCount) :
    command.ChargesOnce c := by
  unfold ChargesOnce
  rcases perform_of_key (c := c) asked with ⟨r, reported, left, least⟩ | ⟨fails, left, -⟩
  · simp only [reported, left]
    refine ⟨least.load_eq, ?_, fun e' ne => LoadTable.get_record_of_ne _ ne⟩
    show ((c.load.record r.endpoint).2.get r.endpoint).toNat = _
    rw [LoadTable.get_record_self, LoadTable.toNat_next (fits _), least.load_eq]
  · rw [Answer.sent?_of_failed fails, left]
    exact ⟨fails, rfl, rfl⟩

/-! ## Whole histories -/

/-- What is kept account of in a history of commands. -/
structure Conserved (c : Coordinator) (commands : List Command) : Prop where
  /-- Each counter is the number of routes that went to its endpoint, and of records of it. -/
  count : ∀ e, ((run commands c).2.load.get e).toNat =
    (Answer.sentTo (run commands c).1).count e +
      (commands.filterMap recorded?).count e
  /-- The snapshot lists the positive counters. -/
  listed : ∀ e n, (e, n) ∈ (run commands c).2.load.snapshot ↔
    (run commands c).2.load.get e = n ∧ 0 < n
  ascending : (run commands c).2.load.snapshot.Pairwise fun a b =>
    a.1.host < b.1.host ∨ a.1.host = b.1.host ∧ a.1.port < b.1.port
  /-- The counters add up to the number of all routes and records. -/
  total : ((run commands c).2.load.snapshot.map fun e => e.2.toNat).sum =
    (Answer.sentTo (run commands c).1).length + (commands.filterMap recorded?).length
  /-- Each command that asks for a route charges once, in the state it meets. -/
  step : ∀ past command future key, commands = past ++ command :: future →
    command.key? = some key → command.ChargesOnce (run past c).2

/-- Load is conserved in every history that starts without load and fills no counter. -/
theorem run_conserved {c : Coordinator} {commands : List Command} (start : c.load = ∅)
    (fits : ∀ e, (run commands c).2.load.get e ≠ maxCount) : Conserved c commands := by
  have load := load_run commands c
  have filled : ∀ e, (c.load.charged (runCharges commands (run commands c).1)).get e ≠ maxCount := by
    rw [← load]
    exact fits
  have used : (run commands c).2.load.Used := by
    rw [load, start]
    exact LoadTable.used_charged LoadTable.used_empty _
  refine ⟨fun e => ?_, fun e n => LoadTable.mem_snapshot_iff used, LoadTable.pairwise_snapshot _,
    ?_, fun past command future key split asked => ?_⟩
  · have counted := LoadTable.toNat_get_charged_of_ne (filled e)
    have zero : ((∅ : LoadTable).get e).toNat = 0 := rfl
    rw [← load, start, zero, count_runCharges] at counted
    omega
  · have sum := LoadTable.total_charged filled
    have zero : (∅ : LoadTable).total = 0 := rfl
    rw [← load, start, zero, (runCharges_perm commands c).length_eq, List.length_append] at sum
    rw [← Nat.zero_add (_ + _)]
    exact sum
  · refine chargesOnce_of_key asked fun e => ?_
    subst split
    have later := fits e
    rw [run_append, load_run] at later
    exact LoadTable.ne_of_charged_ne later

/-- A coordinator whose node is the whole cluster. -/
def alone : Coordinator where
  placement := .new 2 1
  port := 8100
  membership := .new (.new "a" ["10.0.0.1"])
  load := ∅

/-- A history in which the node is down for a while. -/
def outage : List Command :=
  [.route "k1", .setState "a" .dead, .dispatch 7, .record ⟨"b", 8100⟩, .setState "a" .alive,
    .requestRoute ⟨"k1"⟩, .requestSnapshot]

theorem run_conserved_outage : alone.load = ∅ ∧
    (∀ e, (run outage alone).2.load.get e ≠ maxCount) ∧ Conserved alone outage := by
  have short : outage.length < 2 ^ 64 - 1 := by decide
  have fits := get_run_ne_maxCount (c := alone) rfl short
  exact ⟨rfl, fits, run_conserved rfl fits⟩

example : (run outage alone).2.load.snapshot =
    [(⟨"10.0.0.1", 8100⟩, 2), (⟨"b", 8100⟩, 1)] := by cbv

end Concordance.Command
