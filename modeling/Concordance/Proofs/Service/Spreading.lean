import Mathlib
import Concordance.Proofs.Counting
import Concordance.Proofs.Service.Step

/-!
# Spreading over replicas

Work on the keys of one partition goes to the endpoints that can serve them, each time
to one of least load. So it levels them: an endpoint that got some of the work ends no
more than one above any other.

* `Command.Leveled`: what the routings so far did to the load.
* `Command.Leveled.next`, `Command.leveled_run`: each routing keeps it, and so does a run.
* `Command.run_spread`: what a run of routings amounts to.
-/

namespace Concordance

/-! ## Shares -/

/-- Numbers that differ by one at most are their mean, rounded down or up. -/
theorem eq_div_or_eq_div_of_even {α : Type} {l : List α} {f : α → Nat}
    (even : ∀ a ∈ l, ∀ b ∈ l, f a ≤ f b + 1) {a : α} (mem : a ∈ l) :
    f a = (l.map f).sum / l.length ∨ f a = ((l.map f).sum + l.length - 1) / l.length := by
  have const (n : Nat) : (l.map fun _ => n).sum = n * l.length := by
    rw [List.map_const', List.sum_replicate_nat, Nat.mul_comm]
  by_cases above : ∃ b ∈ l, f a < f b
  · -- Another number is one more, so `a` is the least one and the sum misses the next multiple.
    obtain ⟨b, hb, more⟩ := above
    have least : ∀ x ∈ l, f a ≤ f x := fun x hx => by
      have := even b hb x hx
      omega
    have lower := List.sum_le_sum least
    have upper := List.sum_lt_sum f (fun _ => f a + 1) (fun x hx => even x hx a mem)
      ⟨a, mem, Nat.lt_succ_self _⟩
    rw [const] at lower upper
    exact .inl (Nat.div_eq_of_lt_le lower upper).symm
  · have most : ∀ x ∈ l, f x ≤ f a := fun x hx => Nat.le_of_not_lt fun lt => above ⟨x, hx, lt⟩
    have upper := List.sum_le_sum most
    have lower := List.sum_lt_sum (fun _ => f a) (fun x => f x + 1) (fun x hx => even a mem x hx)
      ⟨a, mem, Nat.lt_succ_self _⟩
    rw [const] at upper
    rw [const, List.sum_map_add, const, Nat.one_mul] at lower
    have next : (f a + 1) * l.length = f a * l.length + l.length := Nat.succ_mul _ _
    exact .inr (Nat.div_eq_of_lt_le (by omega) (by omega)).symm

theorem SortedSet.nodup {α : Type} [Ord α] [Std.TransOrd α] (s : SortedSet α) :
    s.toList.Nodup :=
  s.ascending.imp fun {a b} lt eq => by
    have same : compare b b = .eq := Std.ReflCmp.compare_self
    rw [eq, same] at lt
    cases lt

namespace Command

variable {c : Coordinator} {key : String} {E : SortedSet Endpoint} {start load : LoadTable}
  {sent : List Endpoint} {commands : List Command}

/-! ## One routing -/

/-- From the load `start` on, work was sent to the endpoints `sent` in turn. All of them are
in `E`, and none of them is more than one above any other endpoint in `E` now. -/
structure Leveled (E : SortedSet Endpoint) (start load : LoadTable) (sent : List Endpoint) :
    Prop where
  load_eq : load = start.charged sent
  mem : ∀ e ∈ sent, e ∈ E
  even : ∀ e ∈ sent, ∀ e' ∈ E, (load.get e).toNat ≤ (load.get e').toNat + 1

theorem Leveled.refl : Leveled E load load [] := ⟨rfl, nofun, nofun⟩

/-- Work that goes to an endpoint of least load leaves the endpoints leveled. -/
theorem Leveled.next (h : Leveled E start load sent) {e : Endpoint} (mem : e ∈ E)
    (least : ∀ e' ∈ E, load.get e ≤ load.get e') :
    Leveled E start (load.record e).2 (sent ++ [e]) := by
  refine ⟨?_, fun e₁ h₁ => ?_, fun e₁ h₁ e₂ h₂ => ?_⟩
  · rw [LoadTable.charged_append, ← h.load_eq]
    rfl
  · rcases List.mem_append.mp h₁ with old | new
    · exact h.mem e₁ old
    · rw [List.mem_singleton.mp new]
      exact mem
  · have below := UInt64.le_iff_toNat_le.mp (least e₂ h₂)
    have bound := (load.get e₂).toNat_lt
    rw [LoadTable.toNat_get_record, LoadTable.toNat_get_record]
    rcases List.mem_append.mp h₁ with old | new
    · by_cases same : e₁ = e
      · rw [same]
        split <;> omega
      · have even := h.even e₁ old e₂ h₂
        rw [if_neg same]
        split <;> omega
    · rw [List.mem_singleton.mp new]
      split <;> omega

/-- A counter that is not full has counted the work that was sent. -/
theorem Leveled.toNat_get (h : Leveled E start load sent) {e : Endpoint}
    (fits : load.get e ≠ LoadTable.maxCount) :
    (load.get e).toNat = (start.get e).toNat + sent.count e := by
  rw [h.load_eq] at fits ⊢
  exact LoadTable.toNat_get_charged_of_ne fits

/-- No work was sent to other endpoints. -/
theorem Leveled.get_of_notMem (h : Leveled E start load sent) {e : Endpoint} (outside : e ∉ E) :
    load.get e = start.get e := by
  have none : sent.count e = 0 := List.count_eq_zero.mpr fun mem => outside (h.mem e mem)
  have same := LoadTable.toNat_get_charged start sent e
  have bound := (start.get e).toNat_lt
  rw [← h.load_eq, none] at same
  refine UInt64.toNat_inj.mp ?_
  omega

/-- From equal loads on, the endpoints were sent equally much work, up to one piece. -/
theorem Leveled.count_le (h : Leveled E start load sent)
    (fits : ∀ e ∈ E, load.get e ≠ LoadTable.maxCount)
    (equal : ∀ e ∈ E, ∀ e' ∈ E, start.get e = start.get e') {e e' : Endpoint} (mem : e ∈ E)
    (mem' : e' ∈ E) : sent.count e ≤ sent.count e' + 1 := by
  by_cases some : e ∈ sent
  · have even := h.even e some e' mem'
    rw [h.toNat_get (fits e mem), h.toNat_get (fits e' mem'), equal e mem e' mem'] at even
    omega
  · rw [List.count_eq_zero.mpr some]
    exact Nat.zero_le _

/-! ## Runs of routings -/

/-- Every command asks for a route of a key that is in one partition with `key`. -/
def Within (c : Coordinator) (key : String) (commands : List Command) : Prop :=
  ∀ command ∈ commands, ∃ key', command.key? = some key' ∧
    c.placement.partitionOf key' = c.placement.partitionOf key

theorem eligible_of_partitionOf_eq {key' : String}
    (same : c.placement.partitionOf key' = c.placement.partitionOf key) :
    c.eligible key' = c.eligible key := by
  unfold Coordinator.eligible Placement.eligible
  rw [same]

/-- A run of routings sends as much work as it has commands, and keeps the endpoints leveled. -/
theorem leveled_run (within : Within c key commands) (served : ∃ e, e ∈ c.eligible key)
    (h : Leveled (c.eligible key) start c.load sent) :
    (∀ answer ∈ (run commands c).1, ∃ e n, answer.sent? = some (e, n)) ∧
      (Answer.sentTo (run commands c).1).length = commands.length ∧
      Leveled (c.eligible key) start (run commands c).2.load
        (sent ++ Answer.sentTo (run commands c).1) := by
  induction commands generalizing c sent with
  | nil =>
    refine ⟨nofun, rfl, ?_⟩
    show Leveled _ start c.load (sent ++ [])
    rw [List.append_nil]
    exact h
  | cons command rest ih =>
    obtain ⟨key', asked, same⟩ := within command List.mem_cons_self
    have eligible := eligible_of_partitionOf_eq same
    rcases perform_of_key (c := c) asked with ⟨r, reported, left, least⟩ | ⟨-, -, none⟩
    · rw [eligible] at least
      have first : (c.charge r.endpoint).eligible key = c.eligible key := rfl
      have next := h.next least.serves.2 fun e he => by
        rw [← least.load_eq]
        exact Coordinator.le_load_of_isLeast least he
      obtain ⟨all, length, leveled⟩ := ih (c := c.charge r.endpoint)
        (fun command mem => within command (List.mem_cons_of_mem _ mem)) served next
      have sentTo (answers : List Answer) :
          Answer.sentTo ((perform command c).1 :: answers) = r.endpoint :: Answer.sentTo answers := by
        rw [Answer.sentTo_cons, reported]
        rfl
      rw [run_cons, left]
      refine ⟨fun answer mem => ?_, ?_, ?_⟩
      · rcases List.mem_cons.mp mem with rfl | mem
        · exact ⟨_, _, reported⟩
        · exact all answer mem
      · rw [sentTo, List.length_cons, length, List.length_cons]
      · rw [List.append_assoc] at leveled
        rw [sentTo]
        exact leveled
    · obtain ⟨e, he⟩ := served
      rw [eligible] at none
      exact absurd he (none e)

/-- What a run of routings of keys in one partition amounts to. -/
structure Spread (c : Coordinator) (key : String) (commands : List Command) : Prop where
  /-- Every routing succeeds, at an endpoint that can serve the key. -/
  sent : ∀ answer ∈ (run commands c).1, ∃ e n, answer.sent? = some (e, n) ∧ e ∈ c.eligible key
  total : ((c.eligible key).toList.map fun e => ((run commands c).2.load.get e).toNat).sum =
    ((c.eligible key).toList.map fun e => (c.load.get e).toNat).sum + commands.length
  others : ∀ e, e ∉ c.eligible key → (run commands c).2.load.get e = c.load.get e
  /-- An endpoint that got some of the work is at most one above any other. -/
  even : ∀ e ∈ Answer.sentTo (run commands c).1, ∀ e' ∈ c.eligible key,
    ((run commands c).2.load.get e).toNat ≤ ((run commands c).2.load.get e').toNat + 1
  /-- From equal loads on, each endpoint gets its share, rounded down or up. -/
  share : (∀ e ∈ c.eligible key, ∀ e' ∈ c.eligible key, c.load.get e = c.load.get e') →
    ∀ e ∈ c.eligible key,
      let got := (Answer.sentTo (run commands c).1).count e
      let among := (c.eligible key).toList.length
      got = commands.length / among ∨ got = (commands.length + among - 1) / among

/-- A run of routings of keys in one partition spreads over the endpoints that can serve
them, if it fills no counter of theirs. -/
theorem run_spread (within : Within c key commands) (served : ∃ e, e ∈ c.eligible key)
    (fits : ∀ e ∈ c.eligible key, (run commands c).2.load.get e ≠ LoadTable.maxCount) :
    Spread c key commands := by
  obtain ⟨all, length, leveled⟩ := leveled_run within served .refl
  rw [List.nil_append] at leveled
  have counted : ∀ e ∈ c.eligible key, ((run commands c).2.load.get e).toNat =
      (c.load.get e).toNat + (Answer.sentTo (run commands c).1).count e :=
    fun e he => leveled.toNat_get (fits e he)
  have sum := sum_count_of_nodup (c.eligible key).nodup leveled.mem
  refine ⟨fun answer mem => ?_, ?_, fun e => leveled.get_of_notMem, leveled.even,
    fun equal e he => ?_⟩
  · obtain ⟨e, n, reported⟩ := all answer mem
    have found : e ∈ Answer.sentTo (run commands c).1 :=
      List.mem_map.mpr ⟨(e, n), List.mem_filterMap.mpr ⟨answer, mem, reported⟩, rfl⟩
    exact ⟨e, n, reported, leveled.mem e found⟩
  · rw [List.map_congr_left counted, List.sum_map_add, sum, length]
  · have share := eq_div_or_eq_div_of_even
      (fun a ha b hb => leveled.count_le fits equal ha hb) he
    rw [sum, length] at share
    exact share

/-- Two replicas, one of them with two addresses. -/
def pair : Coordinator where
  placement := .new 2 2
  port := 8100
  membership := (Membership.new (.new "a" ["10.0.0.1", "10.0.0.2"])).join (.new "b" ["10.0.0.3"])
  load := ∅

/-- Routings of keys in one partition. -/
def routings : List Command := [.route "k1", .requestRoute ⟨"k4"⟩, .dispatch 7, .route "k1"]

theorem run_spread_routings : Within pair "k1" routings ∧ (∃ e, e ∈ pair.eligible "k1") ∧
    (∀ e ∈ pair.eligible "k1", (run routings pair).2.load.get e ≠ LoadTable.maxCount) ∧
    Spread pair "k1" routings := by
  have within : Within pair "k1" routings := by
    intro command mem
    rcases List.mem_cons.mp mem with rfl | mem
    · exact ⟨"k1", rfl, rfl⟩
    rcases List.mem_cons.mp mem with rfl | mem
    · exact ⟨"k4", rfl, by decide +kernel⟩
    rcases List.mem_cons.mp mem with rfl | mem
    · exact ⟨Coordinator.documentKey 7, rfl, by decide +kernel⟩
    · rw [List.mem_singleton.mp mem]
      exact ⟨"k1", rfl, rfl⟩
  have served : ∃ e, e ∈ pair.eligible "k1" := by
    have endpoints : (pair.eligible "k1").toList =
        [⟨"10.0.0.1", 8100⟩, ⟨"10.0.0.2", 8100⟩, ⟨"10.0.0.3", 8100⟩] := by cbv
    refine ⟨⟨"10.0.0.1", 8100⟩, ?_⟩
    rw [SortedSet.mem_def, endpoints]
    exact List.mem_cons_self
  have short : routings.length < 2 ^ 64 - 1 := by decide
  have fits := fun e (_ : e ∈ pair.eligible "k1") =>
    get_run_ne_maxCount (c := pair) rfl short e
  exact ⟨within, served, fits, run_spread within served fits⟩

end Command

end Concordance
