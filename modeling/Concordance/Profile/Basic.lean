import Concordance.Profile.Facet

/-!
# Profiles

A profile describes one document by weighted facets. A facet may stand in it more
than once, told apart by an index, and counts with the sum of its weights. The
weights are numbers of any kind, so that what is computed from them in floating
point can be compared with what the same steps give exactly.

* `Profile.insert`, `Profile.offer`: the first component with a facet and an index stays.
* `Profile.weights`: the total weight of each facet.
-/

namespace Concordance

/-- One component of a profile: a facet, its weight, and an index that tells it
apart from other components with this facet. -/
structure Component where
  facet : Facet
  weight : Float
  tieBreak : Nat

/-- Whether two components stand for the same place in a profile, whatever their
weights. -/
def Component.same (a b : Component) : Bool := a.facet == b.facet && a.tieBreak == b.tieBreak

/-- The components that describe a document, in the order in which they came. No two
stand for the same place. -/
structure Profile where
  components : List Component
  distinct : components.Pairwise fun a b => a.same b = false

/-! ## Weights -/

/-- The total weight of each of some facets, in the order of first occurrence. -/
abbrev Weights (α : Type) := List (Facet × α)

namespace Weights

variable {α : Type}

/-- Adds the weight `w` to the total of the facet `f`. -/
def add [Add α] [OfNat α 0] (totals : Weights α) (f : Facet) (w : α) : Weights α :=
  match totals with
  | [] => [(f, 0 + w)]
  | (f', w') :: rest => if f' = f then (f', w' + w) :: rest else (f', w') :: add rest f w

/-- The totals of a list of weighted facets, added from the left. -/
def merge [Add α] [OfNat α 0] (parts : List (Facet × α)) : Weights α :=
  parts.foldl (fun totals (f, w) => totals.add f w) []

/-- The total weight of a facet, if it occurs. -/
def get? (totals : Weights α) (f : Facet) : Option α := totals.lookup f

/-- Whether the same facets occur in both, with equal totals. -/
def agrees [BEq α] (a b : Weights α) : Bool :=
  a.length == b.length && a.all fun (f, w) => (b.get? f).any (w == ·)

theorem get?_add_self [Add α] [OfNat α 0] (totals : Weights α) (f : Facet) (w : α) :
    (totals.add f w).get? f = some ((totals.get? f).getD 0 + w) := by
  induction totals with
  | nil => simp [add, get?]
  | cons entry rest ih =>
    obtain ⟨f', w'⟩ := entry
    by_cases h : f' = f
    · simp [add, get?, h]
    · have hb : (f == f') = false := by simpa using Ne.symm h
      simpa [add, get?, h, List.lookup_cons, hb] using ih

theorem get?_add_of_ne [Add α] [OfNat α 0] (totals : Weights α) {f f' : Facet} (h : f' ≠ f)
    (w : α) : (totals.add f w).get? f' = totals.get? f' := by
  have hb : (f' == f) = false := by simpa using h
  induction totals with
  | nil => simp [add, get?, List.lookup_cons, hb]
  | cons entry rest ih =>
    obtain ⟨f'', w''⟩ := entry
    by_cases hf : f'' = f
    · simp [add, get?, hf, List.lookup_cons, hb]
    · simp only [get?] at ih
      simp [add, get?, hf, List.lookup_cons, ih]

end Weights

namespace Profile

/-- The profile without components. -/
def empty : Profile := ⟨[], .nil⟩

instance : EmptyCollection Profile := ⟨empty⟩

instance : Inhabited Profile := ⟨empty⟩

/-- Whether a component that stands for the same place is there. -/
def has (p : Profile) (c : Component) : Bool := p.components.any (·.same c)

/-- Adds a component, unless one that stands for the same place is there. -/
def insert (p : Profile) (c : Component) : Profile :=
  if h : p.has c then p
  else
    { components := p.components ++ [c]
      distinct := by
        refine List.pairwise_append.mpr ⟨p.distinct, List.pairwise_singleton _ _, ?_⟩
        intro a ha b hb
        obtain rfl := List.mem_singleton.mp hb
        simp only [has, List.any_eq_true, not_exists, not_and, Bool.not_eq_true] at h
        exact h a ha }

/-- An insertion adds the component at the end, or nothing. -/
theorem components_insert (p : Profile) (c : Component) :
    (p.insert c).components = if p.has c then p.components else p.components ++ [c] := by
  unfold insert
  split <;> simp_all

/-- Offers a component to a profile. It is added unless one that stands for the same
place is there, and the answer says whether it was. -/
def offer (c : Component) : StateM Profile Bool := fun p => (!p.has c, p.insert c)

/-- The profile of the components of a list, each added in turn. -/
def ofList (components : List Component) : Profile := components.foldl insert empty

/-- The number of components. -/
def size (p : Profile) : Nat := p.components.length

/-- Whether there is no component. -/
def isEmpty (p : Profile) : Bool := p.components.isEmpty

/-- The total weight of each facet. -/
def weights (p : Profile) : Weights Float :=
  .merge (p.components.map fun c => (c.facet, c.weight))

/-- Whether two profiles give the same facets the same total weights. -/
def sameWeights (p q : Profile) : Bool := p.weights.agrees q.weights

end Profile

end Concordance
