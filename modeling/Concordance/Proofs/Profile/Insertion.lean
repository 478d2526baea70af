import Concordance.Proofs.Analysis.Served
import Concordance.Proofs.Profile.Counted

/-!
# The first component of a place stays

Components are offered to a profile one after the other. What a component weighs has no part in
where it stands: the first one that comes for a place is taken, with its own weight, and all later
ones are refused and leave no trace. Totals are made of the components that were taken, in
whatever order these are read.

* `Component.place`: what a component stands for.
* `Profile.offered`, `Profile.answer_of_split`: offers, and how each of them is answered.
* `Profile.has_ofList`, `Profile.mem_components_ofList`: which places are taken, and by what.
* `Profile.totalsOf`, `Profile.Listing`: totals, in any order in which components may be read.
* `Profile.first_component_stays`: what comes of offers.
-/

namespace Concordance

/-- What a component stands for: its facet and its index, whatever its weight. -/
def Component.place (c : Component) : Facet × ℕ := (c.facet, c.tieBreak)

theorem Component.same_iff {a b : Component} : a.same b = true ↔ a.place = b.place := by
  simp [same, place]

theorem Component.same_comm (a b : Component) : a.same b = b.same a := by
  rw [Bool.eq_iff_iff, same_iff, same_iff, eq_comm]

namespace Profile

variable {p : Profile} {c : Component} {cs : List Component}

theorem has_iff : p.has c = true ↔ ∃ d ∈ p.components, d.place = c.place := by
  simp only [has, List.any_eq_true, Component.same_iff]

/-- No place is taken twice. -/
theorem nodup_places (p : Profile) : (p.components.map Component.place).Nodup := by
  refine List.pairwise_map.mpr (p.distinct.imp fun {a b} apart same => ?_)
  rw [Component.same_iff.mpr same] at apart
  cases apart

/-! ## Offers -/

/-- The answers of some offers, and the profile after them. -/
def offered (cs : List Component) : List Bool × Profile := (cs.mapM offer).run ∅

theorem run_offers (cs : List Component) (p : Profile) :
    ((cs.mapM offer).run p).1.length = cs.length ∧
      ((cs.mapM offer).run p).2 = cs.foldl insert p := by
  induction cs generalizing p with
  | nil => exact ⟨rfl, rfl⟩
  | cons c rest ih =>
    obtain ⟨length, state⟩ := ih (p.insert c)
    rw [List.mapM_cons, run_bind, run_bind, run_pure]
    exact ⟨congrArg (· + 1) length, state⟩

/-- Offers lead to the profile that is collected from their list. -/
theorem offered_eq_ofList (cs : List Component) : (offered cs).2 = ofList cs :=
  (run_offers cs ∅).2

theorem answer_of_split (before : List Component) (c : Component) (after : List Component) :
    (offered (before ++ c :: after)).1[before.length]? = some (!(ofList before).has c) := by
  obtain ⟨length, state⟩ := run_offers before ∅
  have answers : (offered (before ++ c :: after)).1 =
      (offered before).1 ++
        (!(offered before).2.has c) ::
          ((after.mapM offer).run ((offered before).2.insert c)).1 := by
    rw [offered, List.mapM_append, List.mapM_cons]
    rfl
  rw [answers, offered, ← length, List.getElem?_append_right (le_refl _), Nat.sub_self, state]
  rfl

/-! ## Places -/

theorem mem_components_insert {d : Component} : d ∈ (p.insert c).components ↔
    d ∈ p.components ∨ p.has c = false ∧ d = c := by
  rw [components_insert]
  cases p.has c <;> simp

theorem ofList_concat (cs : List Component) (c : Component) :
    ofList (cs ++ [c]) = (ofList cs).insert c := by
  rw [ofList, List.foldl_append]
  rfl

/-- A place is taken if a component was offered for it. -/
theorem has_ofList : (ofList cs).has c = true ↔ ∃ d ∈ cs, d.place = c.place := by
  -- The last offer is taken off: if it was refused, its place had been taken before.
  induction cs using List.reverseRecOn with
  | nil => exact has_iff
  | append_singleton rest last ih =>
    rw [has_iff] at ih ⊢
    simp only [ofList_concat, mem_components_insert, or_and_right, exists_or, ih,
      List.mem_append, List.mem_singleton, exists_eq_left]
    refine or_congr_right' fun fresh => ⟨?_, fun same => ⟨last, ⟨?_, rfl⟩, same⟩⟩
    · rintro ⟨d, ⟨-, rfl⟩, same⟩
      exact same
    · by_contra taken
      rw [Bool.not_eq_false, has_iff] at taken
      obtain ⟨d, mem, same'⟩ := taken
      exact fresh (ih.mp ⟨d, mem, same'.trans same⟩)

/-- It is taken by the first component that was offered for it. -/
theorem mem_components_ofList : c ∈ (ofList cs).components ↔
    cs.find? (·.place = c.place) = some c := by
  induction cs using List.reverseRecOn with
  | nil => exact ⟨nofun, nofun⟩
  | append_singleton rest last ih =>
    rw [ofList_concat, mem_components_insert, ih, List.find?_append, Option.or_eq_some_iff]
    refine or_congr_right ?_
    rw [← Bool.not_eq_true, has_ofList, List.find?_eq_none]
    by_cases own : c = last
    · subst own
      simp
    · simp [own, Ne.symm own, List.find?_singleton]

/-- There are as many components as places that were offered for. -/
theorem size_ofList (cs : List Component) :
    (ofList cs).size = (cs.map Component.place).toFinset.card := by
  have places : ((ofList cs).components.map Component.place).toFinset =
      (cs.map Component.place).toFinset := by
    ext ⟨f, n⟩
    have taken : (ofList cs).has ⟨f, 0, n⟩ = true ↔ _ := has_ofList
    rw [has_iff] at taken
    simp only [List.mem_toFinset, List.mem_map]
    exact taken
  rw [← places, List.toFinset_card_of_nodup (nodup_places _), List.length_map]
  rfl

/-! ## Totals -/

/-- The weights that a facet comes with, in the order of the components. -/
def weightsOf (components : List Component) (f : Facet) : List Float :=
  (components.filter (·.facet = f)).map (·.weight)

/-- The total weight of each facet, where the components are read in this order. -/
def totalsOf (components : List Component) : Weights Float :=
  .merge (components.map fun c => (c.facet, c.weight))

theorem occurrences_components (components : List Component) (f : Facet) :
    Weights.occurrences (components.map fun c => (c.facet, c.weight)) f =
      weightsOf components f := by
  rw [Weights.occurrences, List.filter_map, List.map_map]
  rfl

theorem distinct_totalsOf (components : List Component) : (totalsOf components).Distinct :=
  Weights.distinct_merge _

theorem mem_facets_totalsOf {components : List Component} {f : Facet} :
    f ∈ (totalsOf components).facets ↔ ∃ c ∈ components, c.facet = f := by
  rw [totalsOf, Weights.mem_facets_merge]
  simp

theorem total_totalsOf (components : List Component) (f : Facet) :
    (totalsOf components).total f = (weightsOf components f).foldl (· + ·) 0 := by
  rw [totalsOf, Weights.total_merge, occurrences_components]

/-- The components of a profile, in an order in which they may be read. -/
structure Listing (p : Profile) where
  entries : List Component
  perm : p.components.Perm entries

/-- The order in which the components came. -/
def Listing.own (p : Profile) : p.Listing := ⟨p.components, .refl _⟩

theorem totalsOf_own (p : Profile) : totalsOf (Listing.own p).entries = p.weights := rfl

/-! ## What comes of offers -/

/-- The answers to some offers and the profile after them: the first component for each place was
taken, and nothing else. -/
structure KeepsFirst (offers : List Component) (answers : List Bool) (p : Profile) : Prop where
  /-- Every offer is answered. -/
  answered : answers.length = offers.length
  /-- The answer is yes just if no offer for the same place came before. -/
  taken : ∀ before c after, offers = before ++ c :: after →
    (answers[before.length]? = some true ↔ ∀ d ∈ before, d.place ≠ c.place)
  /-- A refused offer changes nothing. -/
  refused : ∀ before c after, offers = before ++ c :: after →
    answers[before.length]? = some false → (offered (before ++ [c])).2 = (offered before).2
  /-- What is kept is the first component of each place. -/
  kept : ∀ c, c ∈ p.components ↔ offers.find? (·.place = c.place) = some c
  /-- There are as many as places. -/
  size : p.size = (offers.map Component.place).toFinset.card
  /-- The profile is that of the list. -/
  collected : p = ofList offers
  /-- The totals are those in the order in which the components came. -/
  weights : p.weights = totalsOf (Listing.own p).entries
  /-- In whatever order the components are read, each of their facets has one total. -/
  distinct : ∀ listing : p.Listing, (totalsOf listing.entries).Distinct
  /-- No other facet has one. -/
  facets : ∀ (listing : p.Listing) (f : Facet),
    f ∈ (totalsOf listing.entries).facets ↔ ∃ c ∈ p.components, c.facet = f
  /-- It is the sum, in this order, of the weights of the components with this facet. -/
  totals : ∀ (listing : p.Listing) (f : Facet),
    (totalsOf listing.entries).total f = (weightsOf listing.entries f).foldl (· + ·) 0

/-- Of the components that are offered for a place the first one stays. -/
theorem first_component_stays (offers : List Component) :
    KeepsFirst offers (offered offers).1 (offered offers).2 where
  answered := (run_offers offers ∅).1
  taken := by
    rintro before c after rfl
    rw [answer_of_split, Option.some.injEq, Bool.not_eq_true', ← Bool.not_eq_true, has_ofList]
    simp
  refused := by
    rintro before c after rfl refused
    rw [answer_of_split, Option.some.injEq, Bool.not_eq_false'] at refused
    rw [offered_eq_ofList, offered_eq_ofList, ofList_concat]
    exact dif_pos refused
  kept c := by
    rw [offered_eq_ofList]
    exact mem_components_ofList
  size := by
    rw [offered_eq_ofList]
    exact size_ofList offers
  collected := offered_eq_ofList offers
  weights := (totalsOf_own _).symm
  distinct listing := distinct_totalsOf listing.entries
  facets listing f := by
    rw [mem_facets_totalsOf]
    simp only [listing.perm.mem_iff]
  totals listing := total_totalsOf listing.entries

/-- The second component is for a place that is taken. -/
example : (offered [⟨⟨⟨"body", .word⟩, .text "lean"⟩, 1, 0⟩,
    ⟨⟨⟨"body", .word⟩, .text "lean"⟩, 5, 0⟩, ⟨⟨⟨"body", .word⟩, .text "lean"⟩, 2, 1⟩]).1 =
      [true, false, true] := by
  decide

end Profile

end Concordance
