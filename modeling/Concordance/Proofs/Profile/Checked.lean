import Concordance.Proofs.Profile.Valid

/-!
# How comparisons end

Before anything is computed from two profiles, both are looked through for a weight that
is not accepted, the first one first. So a comparison ends with a number, or it names the
first such component that is met.

* `Profile.validate_cases`: how looking through one profile ends.
* `Checked`: how a computation from two profiles ends.
* `checked_dot`, `checked_similarity`: scalar products and similarities end so.
-/

namespace Concordance

open Binary64

/-- The component stands in the profile, and its weight cannot be used. -/
structure Profile.Faulty (p : Profile) (c : Component) : Prop where
  mem : c ∈ p.components
  unusable : Unusable c.weight

/-- The error that a component is named in. -/
def Component.refusal (c : Component) : InvalidWeight := ⟨c.facet, c.weight⟩

namespace Profile

variable {p q : Profile} {c : Component}

theorem Faulty.not_valid (h : p.Faulty c) : ¬ p.Valid := fun valid =>
  Bool.noConfusion ((validWeight_eq_false_iff.mpr h.unusable).symm.trans (valid c h.mem))

/-- Looking through a profile ends well, or it names a component. -/
theorem validate_cases (p : Profile) :
    p.Valid ∨ ∃ c, p.Faulty c ∧ p.validate = .error c.refusal := by
  unfold validate
  cases found : p.components.find? fun c => !validWeight c.weight with
  | none =>
    refine .inl fun c mem => ?_
    have accepted := List.find?_eq_none.mp found c mem
    rwa [Bool.not_eq_true, Bool.not_eq_false'] at accepted
  | some c =>
    have refused := List.find?_some found
    rw [Bool.not_eq_true', validWeight_eq_false_iff] at refused
    exact .inr ⟨c, ⟨List.mem_of_find?_eq_some found, refused⟩, rfl⟩

/-- The length of a valid profile. -/
def length (p : Profile) : Float := (orderedSum p.weights.squares).sqrt

/-- The scalar product of valid profiles. -/
def product (p q : Profile) : Float := orderedSum (p.weights.products q.weights)

/-- The similarity of valid profiles. -/
def cosine (p q : Profile) : Float :=
  if p.length == 0.0 || q.length == 0.0 then 0.0
  else clampUnit (p.product q / (p.length * q.length))

theorem not_valid_iff : ¬ p.Valid ↔ ∃ c, p.Faulty c := by
  refine ⟨fun invalid => ?_, fun ⟨c, faulty⟩ => faulty.not_valid⟩
  obtain ⟨c, faulty, -⟩ := p.validate_cases.resolve_left invalid
  exact ⟨c, faulty⟩

end Profile

/-- How a computation that gives `x` for valid profiles ends for any two. -/
inductive Checked (p q : Profile) (x : Float) : Except InvalidWeight Float → Prop
  | accepted (left : p.Valid) (right : q.Valid) : Checked p q x (.ok x)
  | left {c : Component} (faulty : p.Faulty c) : Checked p q x (.error c.refusal)
  | right {c : Component} (left : p.Valid) (faulty : q.Faulty c) : Checked p q x (.error c.refusal)

namespace Checked

variable {p q : Profile} {x : Float} {result : Except InvalidWeight Float}

theorem eq_ok_iff (h : Checked p q x result) {y : Float} :
    result = .ok y ↔ p.Valid ∧ q.Valid ∧ x = y := by
  cases h with
  | accepted left right => simp [left, right]
  | left faulty => simp [faulty.not_valid]
  | right left faulty => simp [faulty.not_valid]

theorem exists_error_iff (h : Checked p q x result) :
    (∃ e, result = .error e) ↔ (∃ c, p.Faulty c) ∨ ∃ c, q.Faulty c := by
  rw [← Profile.not_valid_iff, ← Profile.not_valid_iff]
  cases h with
  | accepted left right => simp [left, right]
  | left faulty => simp [faulty.not_valid]
  | right left faulty => simp [faulty.not_valid]

/-- An error names a component of the first profile if that has one to name. -/
theorem of_error (h : Checked p q x result) {e : InvalidWeight} (error : result = .error e) :
    ∃ c, c.refusal = e ∧ (p.Faulty c ∨ p.Valid ∧ q.Faulty c) := by
  cases h with
  | accepted left right => cases error
  | left faulty => cases error; exact ⟨_, rfl, .inl faulty⟩
  | right left faulty => cases error; exact ⟨_, rfl, .inr ⟨left, faulty⟩⟩

end Checked

namespace Profile

theorem checked_dot (p q : Profile) : Checked p q (p.product q) (p.dot q) := by
  rcases p.validate_cases with left | ⟨c, faulty, refused⟩
  · rcases q.validate_cases with right | ⟨c, faulty, refused⟩
    · rw [dot_eq left right]
      exact .accepted left right
    · rw [dot, left.validate_eq, refused]
      exact .right left faulty
  · rw [dot, refused]
    exact .left faulty

theorem norm_of_refused {p : Profile} {e : InvalidWeight} (h : p.validate = .error e) :
    p.norm = .error e := by
  rw [norm, h]
  rfl

theorem checked_similarity (p q : Profile) : Checked p q (p.cosine q) (p.similarity q) := by
  rcases p.validate_cases with left | ⟨c, faulty, refused⟩
  · rcases q.validate_cases with right | ⟨c, faulty, refused⟩
    · rw [similarity_eq (norm_eq left) (norm_eq right) (dot_eq left right)]
      exact .accepted left right
    · rw [similarity, norm_eq left, norm_of_refused refused]
      exact .right left faulty
  · rw [similarity, norm_of_refused refused]
    exact .left faulty

end Profile

end Concordance
