import Concordance.Proofs.Profile.Insertion
import Concordance.Proofs.Profile.SameWeights

/-!
# Lengths and scalar products of a profile with itself

The length of a profile and its scalar product with itself are computed apart. Totals are merged
once for the length and twice for the product, from components that are read in one order, and each
merging yields its totals in an order of its own. The length squares every total, the product looks
up the totals of one merging in the other. Since no facet has two totals, each of them meets only
itself. So the two sums have the same terms, and the length is the root of the product, even where
a total is zero or has grown infinite.

* `Weights.products_self`, `Weights.products_self_perm`: totals that are looked up in themselves.
* `Profile.Merging`: the totals that one merging yields.
* `Profile.Merging.norm_eq_map_dot`: a length and a product, from any three mergings.
* `Profile.norm_root_of_dot`: the length of a valid profile.
-/

namespace Concordance

open Binary64

namespace Weights

variable {α : Type} [Mul α] {a b c : Weights α}

/-- Looked up in themselves, totals are multiplied with themselves. -/
theorem products_self (h : a.Distinct) : a.products a = a.squares := by
  have own : ∀ entry ∈ a,
      (a.get? entry.1).map (entry.2 * ·) = some (entry.2 * entry.2) := fun entry mem => by
    rw [(get?_eq_some_iff h).mpr mem]
    rfl
  rw [products, if_pos le_rfl, squares, ← List.filterMap_eq_map]
  exact List.filterMap_congr own

/-- So they are in whatever orders they come. -/
theorem products_self_perm [OfNat α 0] (comm : ∀ x y : α, x * y = y * x) (h : a.Distinct)
    (hb : a.Perm b) (hc : a.Perm c) : (b.products c).Perm a.squares := by
  rw [← products_self h]
  exact (products_perm_of_perm comm h h hb hc).symm

end Weights

namespace Profile

variable {p : Profile}

/-- Looks through the components in this order for a weight that is not accepted. -/
def Listing.validate (listing : p.Listing) : Except InvalidWeight Unit :=
  match listing.entries.find? fun c => !validWeight c.weight with
  | some c => .error c.refusal
  | none => .ok ()

theorem Valid.validate_listing (h : p.Valid) (listing : p.Listing) : listing.validate = .ok () := by
  rw [Listing.validate, find?_refused_eq_none fun c mem => h c (listing.perm.mem_iff.mpr mem)]

/-- The totals of a profile whose components are read in this order, in the order in which one
merging yields them. -/
structure Merging (listing : p.Listing) where
  entries : Weights Float
  perm : (totalsOf listing.entries).Perm entries

namespace Merging

variable {listing : p.Listing}

/-- The totals in the order in which the components came. -/
def own (p : Profile) : Merging (Listing.own p) := ⟨p.weights, .refl _⟩

/-- The length, from the totals of one merging. -/
def norm (totals : Merging listing) : Except InvalidWeight Float := do
  listing.validate
  return (orderedSum totals.entries.squares).sqrt

/-- The scalar product of the profile with itself, from the totals of two mergings. -/
def dot (left right : Merging listing) : Except InvalidWeight Float := do
  listing.validate
  listing.validate
  return orderedSum (left.entries.products right.entries)

theorem norm_own (p : Profile) : (own p).norm = p.norm := rfl

theorem dot_own (p : Profile) : (own p).dot (own p) = p.dot p := rfl

/-- Lengths and scalar products of mergings have the same sum. -/
theorem orderedSum_squares (forLength left right : Merging listing) :
    orderedSum forLength.entries.squares =
      orderedSum (left.entries.products right.entries) := by
  have distinct := distinct_totalsOf listing.entries
  have squares : (totalsOf listing.entries).squares.Perm forLength.entries.squares :=
    forLength.perm.map _
  have products := Weights.products_self_perm float_mul_comm distinct left.perm right.perm
  exact orderedSum_eq_of_perm (squares.symm.trans products.symm)

/-- A length is the root of a scalar product, or both are refused for the same weight. -/
theorem norm_eq_map_dot (forLength left right : Merging listing) :
    forLength.norm = (left.dot right).map Float.sqrt := by
  rw [norm, dot, orderedSum_squares forLength left right]
  cases listing.validate with
  | error e => rfl
  | ok => rfl

end Merging

/-- The length of a valid profile is the root of its scalar product with itself, and neither is
refused. The same holds of any order in which the components are read, and of any orders in which
the totals then come for the length and for both sides of the product. -/
theorem norm_root_of_dot (valid : p.Valid) :
    (∃ d, p.dot p = .ok d ∧ p.norm = .ok d.sqrt) ∧
      ∀ (listing : p.Listing) (forLength left right : Merging listing),
        ∃ d, left.dot right = .ok d ∧ forLength.norm = .ok d.sqrt := by
  have root (listing : p.Listing) (forLength left right : Merging listing) :
      ∃ d, left.dot right = .ok d ∧ forLength.norm = .ok d.sqrt := by
    have product : left.dot right = .ok (orderedSum (left.entries.products right.entries)) := by
      rw [Merging.dot, valid.validate_listing]
      rfl
    refine ⟨_, product, ?_⟩
    rw [forLength.norm_eq_map_dot left right, product]
    rfl
  refine ⟨?_, root⟩
  rw [← Merging.norm_own, ← Merging.dot_own]
  exact root _ _ _ _

/-- A word in two components, one of which weighs nothing. -/
theorem norm_root_of_dot_divided : (divided 3 (-0.0)).Valid ∧
    ∃ d, (divided 3 (-0.0)).dot (divided 3 (-0.0)) = .ok d ∧
      (divided 3 (-0.0)).norm = .ok d.sqrt := by
  have valid : (divided 3 (-0.0)).Valid := by decide
  exact ⟨valid, (norm_root_of_dot valid).1⟩

end Profile

end Concordance
