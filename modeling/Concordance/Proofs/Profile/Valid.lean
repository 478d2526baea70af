import Concordance.Profile.Similarity
import Concordance.Proofs.Binary64.Nonneg
import Concordance.Proofs.Binary64.Order

/-!
# Profiles with valid weights

A profile is accepted if each of its weights is finite and not negative. From there on
nothing is refused: lengths, scalar products and similarities are plain numbers, computed
from total weights that are not negative, but that may be infinite.

* `Profile.Valid`: every weight is accepted.
* `Profile.norm_eq`, `Profile.dot_eq`, `Profile.similarity_eq`: what is computed.
* `Profile.unsigned_weights`, `Profile.nonneg_weights`: the total weights.
-/

namespace Concordance

open Binary64 Float.Model.UnpackedFloat

/-- A weight is accepted if it is finite and not negative. -/
theorem validWeight_iff {w : Float} :
    validWeight w = true ↔ w.isFinite = true ∧ Nonneg (unpacked w) := by
  unfold validWeight
  rw [Bool.and_eq_true, Bool.not_eq_true', decide_eq_false_iff_not, lt_iff]
  refine and_congr_right fun finite => ?_
  change (unpacked w).isFinite = true at finite
  have zero : unpacked 0.0 = .zero .positive := rfl
  rw [zero]
  cases hu : unpacked w with
  | notANumber | infinity =>
    rw [hu] at finite
    cases finite
  | zero s => exact ⟨fun _ => trivial, fun _ => nofun⟩
  | finite s m e pos =>
    cases s with
    | negative => exact ⟨fun h => absurd rfl h, nofun⟩
    | positive => exact ⟨fun _ => rfl, fun _ => nofun⟩

/-- No similarity can be computed from a weight that is no number, or infinite, or negative. -/
def Unusable (w : Float) : Prop := w.isNaN = true ∨ w.isInf = true ∨ w < 0.0

theorem isFinite_eq_false_iff {w : Float} :
    w.isFinite = false ↔ w.isNaN = true ∨ w.isInf = true := by
  show (unpacked w).isFinite = false ↔ (unpacked w).isNaN = true ∨ (unpacked w).isInf = true
  cases unpacked w with
  | notANumber => exact ⟨fun _ => .inl rfl, fun _ => rfl⟩
  | infinity s => exact ⟨fun _ => .inr rfl, fun _ => rfl⟩
  | zero | finite => exact ⟨nofun, nofun⟩

theorem validWeight_eq_false_iff {w : Float} : validWeight w = false ↔ Unusable w := by
  rw [validWeight, Bool.and_eq_false_iff, Bool.not_eq_false', decide_eq_true_iff,
    isFinite_eq_false_iff, Unusable, or_assoc]

/-! ## Total weights -/

namespace Weights

variable {totals : Weights Float}

theorem unsigned_add (h : ∀ entry ∈ totals, Unsigned (unpacked entry.2)) (f : Facet) {w : Float}
    (hw : Nonneg (unpacked w)) : ∀ entry ∈ totals.add f w, Unsigned (unpacked entry.2) := by
  induction totals with
  | nil =>
    intro entry mem
    rw [List.mem_singleton.mp mem]
    exact Binary64.unsigned_add rfl hw
  | cons first rest ih =>
    obtain ⟨own, others⟩ := List.forall_mem_cons.mp h
    unfold add
    split
    · exact List.forall_mem_cons.mpr ⟨Binary64.unsigned_add own hw, others⟩
    · exact List.forall_mem_cons.mpr ⟨own, ih others⟩

theorem unsigned_merge {parts : List (Facet × Float)}
    (h : ∀ part ∈ parts, Nonneg (unpacked part.2)) :
    ∀ entry ∈ merge parts, Unsigned (unpacked entry.2) := by
  suffices keeps : ∀ totals : Weights Float, (∀ entry ∈ totals, Unsigned (unpacked entry.2)) →
      ∀ entry ∈ parts.foldl (fun totals (f, w) => totals.add f w) totals,
        Unsigned (unpacked entry.2) from keeps [] nofun
  induction parts with
  | nil => exact fun _ own => own
  | cons part rest ih =>
    obtain ⟨own, others⟩ := List.forall_mem_cons.mp h
    exact fun totals unsigned => ih others _ (unsigned_add unsigned part.1 own)

theorem nonneg_squares (h : ∀ entry ∈ totals, Nonneg (unpacked entry.2)) :
    ∀ x ∈ totals.squares, Nonneg (unpacked x) := by
  intro x mem
  obtain ⟨entry, total, rfl⟩ := List.mem_map.mp mem
  exact nonneg_mul_self (h entry total)

/-- Weights with finite squares are finite. -/
theorem isFinite_of_squares (h : ∀ x ∈ totals.squares, x.isFinite = true) :
    ∀ entry ∈ totals, entry.2.isFinite = true := fun entry mem =>
  isFinite_of_mul_self (h _ (List.mem_map.mpr ⟨entry, mem, rfl⟩))

theorem mem_of_get? {f : Facet} {w : Float} (h : totals.get? f = some w) : (f, w) ∈ totals := by
  obtain ⟨before, after, rfl, -⟩ := List.lookup_eq_some_iff.mp h
  exact List.mem_append_right before List.mem_cons_self

/-- Each term of a scalar product is the product of a weight of one side and one of the other. -/
theorem exists_of_mem_products {a b : Weights Float} {x : Float} (mem : x ∈ a.products b) :
    ∃ l ∈ a ++ b, ∃ r ∈ a ++ b, x = l.2 * r.2 := by
  have sides (short long : Weights Float)
      (mem : x ∈ short.filterMap fun (f, w) => (long.get? f).map (w * ·)) :
      ∃ l ∈ short, ∃ r ∈ long, x = l.2 * r.2 := by
    obtain ⟨l, left, found⟩ := List.mem_filterMap.mp mem
    obtain ⟨w, right, rfl⟩ := Option.map_eq_some_iff.mp found
    exact ⟨l, left, (l.1, w), mem_of_get? right, rfl⟩
  unfold products at mem
  by_cases shorter : a.length ≤ b.length
  · rw [if_pos shorter] at mem
    obtain ⟨l, left, r, right, eq⟩ := sides a b mem
    exact ⟨l, List.mem_append_left b left, r, List.mem_append_right a right, eq⟩
  · rw [if_neg shorter] at mem
    obtain ⟨l, left, r, right, eq⟩ := sides b a mem
    exact ⟨l, List.mem_append_right a left, r, List.mem_append_left b right, eq⟩

theorem nonneg_products {a b : Weights Float}
    (nonneg : ∀ entry ∈ a ++ b, Nonneg (unpacked entry.2))
    (finite : ∀ entry ∈ a ++ b, entry.2.isFinite = true) :
    ∀ x ∈ a.products b, Nonneg (unpacked x) := by
  intro x mem
  obtain ⟨l, left, r, right, rfl⟩ := exists_of_mem_products mem
  exact nonneg_mul (nonneg l left) (nonneg r right) (finite l left) (finite r right)

end Weights

/-! ## Profiles -/

namespace Profile

variable {p q : Profile}

/-- Every weight is accepted. -/
def Valid (p : Profile) : Prop := ∀ c ∈ p.components, validWeight c.weight = true

instance : Decidable p.Valid :=
  inferInstanceAs (Decidable (∀ c ∈ p.components, validWeight c.weight = true))

/-- In whatever order components with accepted weights are looked through, none is found. -/
theorem find?_refused_eq_none {components : List Component}
    (h : ∀ c ∈ components, validWeight c.weight = true) :
    components.find? (fun c => !validWeight c.weight) = none := by
  refine List.find?_eq_none.mpr fun c mem => ?_
  rw [h c mem]
  decide

theorem Valid.validate_eq (h : p.Valid) : p.validate = .ok () := by
  rw [validate, find?_refused_eq_none h]

theorem norm_eq (h : p.Valid) : p.norm = .ok (orderedSum p.weights.squares).sqrt := by
  rw [norm, h.validate_eq]
  rfl

theorem dot_eq (hp : p.Valid) (hq : q.Valid) :
    p.dot q = .ok (orderedSum (p.weights.products q.weights)) := by
  rw [dot, hp.validate_eq, hq.validate_eq]
  rfl

theorem similarity_eq {u v d : Float} (hu : p.norm = .ok u) (hv : q.norm = .ok v)
    (hd : p.dot q = .ok d) :
    p.similarity q = .ok (if u == 0.0 || v == 0.0 then 0.0 else clampUnit (d / (u * v))) := by
  rw [similarity, hu, hv, hd]
  show (if _ then Except.ok 0.0 else Except.ok (clampUnit (d / (u * v)))) = _
  split <;> rfl

/-- Totals are counted from a zero without sign, so they have none. -/
theorem unsigned_weights (h : p.Valid) : ∀ entry ∈ p.weights, Unsigned (unpacked entry.2) := by
  refine Weights.unsigned_merge fun part mem => ?_
  obtain ⟨c, own, rfl⟩ := List.mem_map.mp mem
  exact (validWeight_iff.mp (h c own)).2

theorem nonneg_weights (h : p.Valid) : ∀ entry ∈ p.weights, Nonneg (unpacked entry.2) :=
  fun entry mem => (unsigned_weights h entry mem).nonneg

end Profile

end Concordance
