import Concordance.Proofs.Binary64.ExactSums
import Concordance.Proofs.Document.Facets
import Concordance.Proofs.Profile.Insertion
import Concordance.Proofs.Profile.SameWeights

/-!
# Components in another order

The total of a facet adds up its weights as they come, and a sum in floating point depends on the
order of its terms. So the order of the components may show in totals, lengths and similarities. It
never shows exactly if each facet comes with weights that have the same sum in all orders. Up to two
weights do, and so do whole numbers as long as they are added exactly.

* `OrderFree`: weights with one sum.
* `Profile.Alike`: profiles that no comparison tells apart.
* `Profile.totalsOf_perm_iff`, `Profile.alike_iff`: when another order gives the same.
* `Profile.alike_reordered_iff`: when all orders do.
* `Profile.not_alike_reordered`: three weights that have different sums, and what comes of it.
-/

namespace Concordance

open Binary64

/-! ## Sums in any order -/

/-- A list whose image is put in another order can be put in an order to match. -/
theorem exists_perm_of_map_perm {α β : Type} {f : α → β} {l : List α} {l' : List β}
    (h : (l.map f).Perm l') : ∃ l'', l.Perm l'' ∧ l''.map f = l' := by
  have image : List.Forall₂ (fun b a => b = f a) (l.map f) l := by
    rw [List.forall₂_map_left_iff, List.forall₂_same]
    exact fun _ _ => rfl
  obtain ⟨l'', matched, perm⟩ := List.perm_comp_forall₂ h.symm image
  refine ⟨l'', perm.symm, ?_⟩
  rw [← List.forall₂_eq_eq_eq, List.forall₂_map_left_iff]
  exact matched.flip.imp fun _ _ same => same.symm

/-- All orders of the terms have the same sum from the left. -/
def OrderFree (terms : List Float) : Prop :=
  ∀ terms', terms.Perm terms' → terms'.foldl (· + ·) 0 = terms.foldl (· + ·) 0

/-- Up to two terms have one sum. -/
theorem orderFree_of_length_le_two {terms : List Float} (few : terms.length ≤ 2)
    (nonneg : ∀ w ∈ terms, Nonneg (unpacked w)) : OrderFree terms := by
  intro terms' perm
  match terms with
  | [] => rw [perm.nil_eq]
  | [x] => rw [List.singleton_perm.mp perm]
  | [x, y] =>
    rcases List.perm_pair.mp perm.symm with rfl | rfl
    · rfl
    · exact zero_add_add_comm (nonneg y (by simp)) (nonneg x (by simp))

/-- So have whole numbers that are added exactly. -/
theorem orderFree_ofNat {ns : List ℕ} (le : ns.sum ≤ 2 ^ 53) :
    OrderFree (ns.map Float.ofNat) := by
  intro terms perm
  obtain ⟨ns', perm', rfl⟩ := exists_perm_of_map_perm perm
  rw [zero_foldl_ofNat le, zero_foldl_ofNat (perm'.sum_eq ▸ le), perm'.sum_eq]

namespace Profile

/-! ## Profiles that are alike -/

/-- No comparison tells the two profiles apart. -/
structure Alike (p p' : Profile) : Prop where
  sameWeights : p.sameWeights p' = true
  norm : p.norm = p'.norm
  left : ∀ q : Profile, p.similarity q = p'.similarity q
  right : ∀ q : Profile, q.similarity p = q.similarity p'

variable {p p' : Profile}

/-- Valid profiles are alike just if they have the same totals. -/
theorem alike_iff (hp : p.Valid) (hp' : p'.Valid) :
    p.Alike p' ↔ p.weights.Perm p'.weights := by
  constructor
  · exact fun h => weights_perm_of_sameWeights hp hp' h.sameWeights
  · intro totals
    have norm : p.norm = p'.norm := by
      rw [norm_eq hp, norm_eq hp']
      exact congrArg Except.ok (length_eq_of_perm totals)
    have left (q : Profile) : p.dot q = p'.dot q := by
      have product : orderedSum (p.weights.products q.weights) =
          orderedSum (p'.weights.products q.weights) := product_eq_of_perm totals q
      rw [dot, dot, hp.validate_eq, hp'.validate_eq, product]
    have right (q : Profile) : q.dot p = q.dot p' := by
      have product : orderedSum (q.weights.products p.weights) =
          orderedSum (q.weights.products p'.weights) := by
        have swapped := product_eq_of_perm totals q
        rwa [product_comm p, product_comm p'] at swapped
      rw [dot, dot, hp.validate_eq, hp'.validate_eq, product]
    refine ⟨Weights.agrees_of_perm p.distinct_weights (unsigned_weights hp) totals, norm,
      fun q => ?_, fun q => ?_⟩
    · rw [similarity, similarity, norm, left]
    · rw [similarity, similarity, norm, right]

/-! ## Other orders -/

section

variable {cs cs' : List Component}

/-- Another order gives the same totals just if it gives each facet the same sum. -/
theorem totalsOf_perm_iff (perm : cs.Perm cs') : (totalsOf cs).Perm (totalsOf cs') ↔
    ∀ f, (weightsOf cs' f).foldl (· + ·) 0 = (weightsOf cs f).foldl (· + ·) 0 := by
  simp only [← occurrences_components]
  exact Weights.merge_perm_iff (perm.map _)

theorem weightsOf_perm (perm : cs.Perm cs') (f : Facet) :
    (weightsOf cs f).Perm (weightsOf cs' f) :=
  (perm.filter _).map _

/-- Every order of the weights of a facet comes of an order of the components. -/
theorem exists_perm_of_weightsOf_perm {f : Facet} {terms : List Float}
    (h : (weightsOf cs f).Perm terms) : ∃ cs', cs.Perm cs' ∧ weightsOf cs' f = terms := by
  obtain ⟨own, perm, rfl⟩ := exists_perm_of_map_perm h
  refine ⟨own ++ cs.filter fun c => !decide (c.facet = f), ?_, ?_⟩
  · exact (List.filter_append_perm _ cs).symm.trans (perm.append_right _)
  · have all : own.filter (·.facet = f) = own :=
      List.filter_eq_self.mpr fun c mem => (List.mem_filter.mp (perm.mem_iff.mpr mem)).2
    have none : (cs.filter fun c => !decide (c.facet = f)).filter (·.facet = f) = [] := by
      rw [List.filter_filter]
      simp
    rw [weightsOf, List.filter_append, all, none, List.append_nil]

/-- All orders give the same totals just if each facet comes with weights that have one sum. -/
theorem totalsOf_reordered_iff (cs : List Component) :
    (∀ cs', cs.Perm cs' → (totalsOf cs).Perm (totalsOf cs')) ↔ ∀ f, OrderFree (weightsOf cs f) := by
  constructor
  · intro same f terms h
    obtain ⟨cs', perm, rfl⟩ := exists_perm_of_weightsOf_perm h
    exact (totalsOf_perm_iff perm).mp (same cs' perm) f
  · exact fun free cs' perm => (totalsOf_perm_iff perm).mpr fun f =>
      free f _ (weightsOf_perm perm f)

/-- Components for different places are all kept, in their order. -/
theorem components_ofList (distinct : cs.Pairwise fun a b => a.same b = false) :
    (ofList cs).components = cs :=
  foldl_insert_of_pairwise (p := .empty) distinct

theorem weights_ofList (distinct : cs.Pairwise fun a b => a.same b = false) :
    (ofList cs).weights = totalsOf cs := by
  rw [weights, components_ofList distinct, totalsOf]

theorem valid_ofList (distinct : cs.Pairwise fun a b => a.same b = false)
    (valid : ∀ c ∈ cs, validWeight c.weight = true) : (ofList cs).Valid := by
  rwa [Valid, components_ofList distinct]

/-- Profiles of components in two orders are alike just if these give the same totals. -/
theorem alike_ofList_iff (distinct : cs.Pairwise fun a b => a.same b = false)
    (valid : ∀ c ∈ cs, validWeight c.weight = true) (perm : cs.Perm cs') :
    (ofList cs).Alike (ofList cs') ↔ (totalsOf cs).Perm (totalsOf cs') := by
  have distinct' : cs'.Pairwise fun a b => a.same b = false :=
    (perm.pairwise_iff fun {a b} apart => by rwa [Component.same_comm]).mp distinct
  have valid' : ∀ c ∈ cs', validWeight c.weight = true := fun c mem =>
    valid c (perm.mem_iff.mpr mem)
  rw [alike_iff (valid_ofList distinct valid) (valid_ofList distinct' valid'),
    weights_ofList distinct, weights_ofList distinct']

end

/-- Let components be given for different places, with valid weights. Whether profiles of them in
all orders are alike, and whether one profile has the same totals in whatever order its components
are read, is one question: the weights that a facet comes with must have one sum. Up to two weights
do, and whole numbers that are added exactly. -/
theorem alike_reordered_iff {cs : List Component}
    (distinct : cs.Pairwise fun a b => a.same b = false)
    (valid : ∀ c ∈ cs, validWeight c.weight = true) :
    ((∀ cs', cs.Perm cs' → (ofList cs).Alike (ofList cs')) ↔ ∀ f, OrderFree (weightsOf cs f)) ∧
      ((∀ listing : (ofList cs).Listing, (ofList cs).weights.Perm (totalsOf listing.entries)) ↔
        ∀ f, OrderFree (weightsOf cs f)) ∧
      ∀ f, ((weightsOf cs f).length ≤ 2 ∨
        ∃ ns : List ℕ, weightsOf cs f = ns.map Float.ofNat ∧ ns.sum ≤ 2 ^ 53) →
          OrderFree (weightsOf cs f) := by
  rw [← totalsOf_reordered_iff]
  refine ⟨forall₂_congr fun cs' => alike_ofList_iff distinct valid, ?_, fun f harmless => ?_⟩
  · rw [weights_ofList distinct]
    have kept := components_ofList distinct
    constructor
    · exact fun same cs' perm => same ⟨cs', by rwa [kept]⟩
    · intro same listing
      have perm := listing.perm
      rw [kept] at perm
      exact same _ perm
  · rcases harmless with few | ⟨ns, counts, exact⟩
    · refine orderFree_of_length_le_two few fun w mem => ?_
      obtain ⟨c, own, rfl⟩ := List.mem_map.mp mem
      exact (validWeight_iff.mp (valid c (List.mem_of_mem_filter own))).2
    · rw [counts]
      exact orderFree_ofNat exact

/-- One word of a title, in the component with an index. -/
def inTitle (word : String) (w : Float) (n : ℕ) : Component :=
  ⟨⟨⟨"title", .word⟩, .text word⟩, w, n⟩

theorem alike_reordered_counts :
    let cs := [inTitle "lean" 1 0, inTitle "lean" 2 1, inTitle "lean" 3 2]
    (cs.Pairwise fun a b => a.same b = false) ∧ (∀ c ∈ cs, validWeight c.weight = true) ∧
      ∀ cs', cs.Perm cs' → (ofList cs).Alike (ofList cs') := by
  intro cs
  have distinct : cs.Pairwise fun a b => a.same b = false := by decide
  have valid : ∀ c ∈ cs, validWeight c.weight = true := by decide +kernel
  obtain ⟨orders, -, free⟩ := alike_reordered_iff distinct valid
  refine ⟨distinct, valid, orders.mpr fun f => free f ?_⟩
  by_cases lean : (inTitle "lean" 1 0).facet = f
  · subst lean
    exact .inr ⟨[1, 2, 3], rfl, by decide⟩
  · left
    have none : weightsOf cs f = [] := by
      rw [weightsOf, List.map_eq_nil_iff, List.filter_eq_nil_iff]
      simpa [cs, inTitle] using lean
    rw [none]
    decide

/-- The square of the large weight is just too small to be kept, that of the next number is not. The
small weights, of half a step each, are lost if they are added to the large one in turn, and lead
to the next number if they are added to each other first. So in one order the length is zero and
nothing is similar, and in another one it is not. -/
theorem not_alike_reordered :
    let large := Float.ofBits 0x1E56A09E667F3BCC
    let small := Float.ofBits 0x1B00000000000000
    let cs := [inTitle "lean" large 0, inTitle "lean" small 1, inTitle "lean" small 2]
    let cs' := [inTitle "lean" small 1, inTitle "lean" small 2, inTitle "lean" large 0]
    let q := ofList [inTitle "lean" 1 0]
    cs.Perm cs' ∧ (cs.Pairwise fun a b => a.same b = false) ∧
      (∀ c ∈ cs, validWeight c.weight = true) ∧
      (ofList cs).sameWeights (ofList cs') = false ∧
      (∃ u u', (ofList cs).norm = .ok u ∧ (ofList cs').norm = .ok u' ∧ (u == u') = false) ∧
      (∃ s s', (ofList cs).similarity q = .ok s ∧ (ofList cs').similarity q = .ok s' ∧
        (s == 0.0) = true ∧ s' > 0.5) ∧
      ∃ listing : (ofList cs).Listing,
        (ofList cs).weights.agrees (totalsOf listing.entries) = false := by
  intro large small cs cs' q
  have perm : cs.Perm cs' := @List.perm_append_comm _ [_] [_, _]
  have distinct : cs.Pairwise fun a b => a.same b = false := by decide
  have valid : ∀ c ∈ cs, validWeight c.weight = true := by decide +kernel
  have left : (ofList cs).Valid := valid_ofList distinct valid
  have right : (ofList cs').Valid := by decide +kernel
  have other : q.Valid := by decide +kernel
  have totals : (ofList cs).sameWeights (ofList cs') = false := by decide +kernel
  have lengths : ((ofList cs).length == (ofList cs').length) = false := by decide +kernel
  have none : ((ofList cs).cosine q == 0.0) = true := by decide +kernel
  have some : (ofList cs').cosine q > 0.5 := by decide +kernel
  refine ⟨perm, distinct, valid, totals, ⟨_, _, norm_eq left, norm_eq right, lengths⟩, ⟨_, _,
    (left.hasSimilarity other).similarity, (right.hasSimilarity other).similarity, none, some⟩, ?_⟩
  exact ⟨⟨cs', perm⟩, totals⟩

end Profile

end Concordance
