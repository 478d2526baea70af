import Concordance.Profile.Similarity
import Mathlib.Data.List.Induction
import Mathlib.Data.List.Nodup

/-!
# Totals of facets

Merging weighted facets gives one total for each facet, the sum of the weights that it
comes with. Totals are read by their facets alone: the order of the entries changes
neither a look-up nor, up to order, the terms of a scalar product or of a squared length.

* `Weights.occurrences`: the weights that a facet comes with.
* `Weights.distinct_merge`, `Weights.get?_merge`: what merging gives.
* `Weights.merge_perm_iff`, `Weights.merge_perm_of_unique`: when the order of the parts does not
  matter.
* `lookup_eq_some_iff_mem`, `Weights.get?_eq_some_iff`: entries are what look-ups find.
* `Weights.squares_eq`, `Weights.products_perm`: the terms, from the totals of facets.
* `Weights.products_swap`, `Weights.products_perm_of_perm`: what does not matter for them.
-/

namespace Concordance

/-- In a list without repeated keys the entries are what look-ups find. -/
theorem lookup_eq_some_iff_mem {κ α : Type} [BEq κ] [LawfulBEq κ] {entries : List (κ × α)} {k : κ}
    {v : α} (h : (entries.map (·.1)).Nodup) : entries.lookup k = some v ↔ (k, v) ∈ entries := by
  rw [List.lookup_eq_some_iff]
  constructor
  · rintro ⟨before, after, rfl, -⟩
    exact List.mem_append_right before List.mem_cons_self
  · intro mem
    obtain ⟨before, after, rfl⟩ := List.append_of_mem mem
    refine ⟨before, after, rfl, fun other earlier => ?_⟩
    rw [List.map_append, List.nodup_append'] at h
    have apart : k ≠ other.1 := by
      intro same
      exact h.2.2 (List.mem_map_of_mem earlier) (by simp [same])
    simpa using apart

namespace Weights

variable {α : Type}

/-- The facets, in the order of the entries. -/
def facets (totals : Weights α) : List Facet := totals.map (·.1)

/-- No facet has two entries. -/
def Distinct (totals : Weights α) : Prop := totals.facets.Nodup

/-- The total weight of a facet, zero if it does not occur. -/
def total [OfNat α 0] (totals : Weights α) (f : Facet) : α := (totals.get? f).getD 0

/-! ## Look-ups -/

section

variable {totals totals' : Weights α} {f : Facet} {w : α}

@[simp] theorem facets_cons (entry : Facet × α) (rest : Weights α) :
    facets (entry :: rest) = entry.1 :: rest.facets := rfl

theorem get?_cons (f' : Facet) (w' : α) :
    get? ((f', w') :: totals) f = if f = f' then some w' else totals.get? f := by
  unfold get?
  rw [List.lookup_cons]
  by_cases h : f = f'
  · rw [if_pos h, beq_iff_eq.mpr h]
  · rw [if_neg h, beq_eq_false_iff_ne.mpr h]

theorem get?_eq_none_iff : totals.get? f = none ↔ f ∉ totals.facets := by
  induction totals with
  | nil => exact ⟨fun _ => List.not_mem_nil, fun _ => rfl⟩
  | cons entry rest ih =>
    obtain ⟨f', w'⟩ := entry
    rw [get?_cons, facets_cons, List.mem_cons, not_or]
    by_cases h : f = f'
    · simp [h]
    · simp [h, ih]

/-- A look-up finds the total of a facet that occurs. -/
theorem get?_eq_ite [OfNat α 0] (totals : Weights α) (f : Facet) :
    totals.get? f = if f ∈ totals.facets then some (totals.total f) else none := by
  split
  · next occurs =>
    have found := mt get?_eq_none_iff.mp (not_not.mpr occurs)
    obtain ⟨w, found⟩ := Option.ne_none_iff_exists'.mp found
    rw [total, found]
    rfl
  · next absent => exact get?_eq_none_iff.mpr absent

/-- The entries are what look-ups find. -/
theorem get?_eq_some_iff (h : totals.Distinct) : totals.get? f = some w ↔ (f, w) ∈ totals :=
  lookup_eq_some_iff_mem h

theorem total_of_mem [OfNat α 0] (h : totals.Distinct) (mem : (f, w) ∈ totals) :
    totals.total f = w := by
  rw [total, (get?_eq_some_iff h).mpr mem]
  rfl

theorem total_of_notMem [OfNat α 0] (h : f ∉ totals.facets) : totals.total f = 0 := by
  rw [total, get?_eq_none_iff.mpr h]
  rfl

/-- The entries are the facets with their totals. -/
theorem entries_eq [OfNat α 0] (h : totals.Distinct) :
    totals = totals.facets.map fun f => (f, totals.total f) := by
  refine (List.map_id totals).symm.trans ?_
  rw [facets, List.map_map]
  refine List.map_congr_left fun entry mem => ?_
  rw [Function.comp_apply, total_of_mem h mem]
  rfl

theorem mem_facets_iff_of_perm (perm : totals.Perm totals') :
    f ∈ totals.facets ↔ f ∈ totals'.facets :=
  (perm.map _).mem_iff

theorem Distinct.nodup (h : totals.Distinct) : totals.Nodup := List.Nodup.of_map _ h

theorem Distinct.of_perm (h : totals.Distinct) (perm : totals.Perm totals') : totals'.Distinct :=
  (perm.map _).nodup h

/-- The order of the entries does not matter for a look-up. -/
theorem get?_eq_of_perm (h : totals.Distinct) (perm : totals.Perm totals') (f : Facet) :
    totals.get? f = totals'.get? f := by
  have h' := h.of_perm perm
  ext w
  rw [get?_eq_some_iff h, get?_eq_some_iff h', perm.mem_iff]

end

/-! ## Weights of a facet -/

section

variable {parts parts' : List (Facet × α)} {f : Facet} {w : α}

/-- The weights that a facet comes with, in order. -/
def occurrences (parts : List (Facet × α)) (f : Facet) : List α :=
  (parts.filter (·.1 = f)).map (·.2)

theorem mem_of_mem_occurrences (h : w ∈ occurrences parts f) : (f, w) ∈ parts := by
  obtain ⟨part, kept, rfl⟩ := List.mem_map.mp h
  obtain ⟨mem, same⟩ := List.mem_filter.mp kept
  rw [decide_eq_true_iff] at same
  rw [← same]
  exact mem

theorem occurrences_eq_nil_iff : occurrences parts f = [] ↔ ∀ part ∈ parts, part.1 ≠ f := by
  rw [occurrences, List.map_eq_nil_iff, List.filter_eq_nil_iff]
  simp only [decide_eq_true_eq, ne_eq]

theorem occurrences_append (parts parts' : List (Facet × α)) (f : Facet) :
    occurrences (parts ++ parts') f = occurrences parts f ++ occurrences parts' f := by
  rw [occurrences, List.filter_append, List.map_append]
  rfl

theorem occurrences_perm (perm : parts.Perm parts') (f : Facet) :
    (occurrences parts f).Perm (occurrences parts' f) :=
  (perm.filter _).map _

end

/-! ## Merging -/

section

variable [Add α] [OfNat α 0]

theorem facets_add (totals : Weights α) (f : Facet) (w : α) : (totals.add f w).facets =
    if f ∈ totals.facets then totals.facets else totals.facets ++ [f] := by
  induction totals with
  | nil => rfl
  | cons entry rest ih =>
    obtain ⟨f', w'⟩ := entry
    unfold add
    by_cases h : f' = f
    · simp [h]
    · rw [if_neg h, facets_cons, facets_cons, ih]
      by_cases occurs : f ∈ facets rest
      · simp [occurs]
      · simp [occurs, Ne.symm h]

theorem Distinct.add {totals : Weights α} (h : totals.Distinct) (f : Facet) (w : α) :
    (totals.add f w).Distinct := by
  unfold Distinct
  rw [facets_add]
  split
  · exact h
  · next fresh => exact List.nodup_append_comm.mp (List.nodup_cons.mpr ⟨fresh, h⟩)

theorem merge_append_singleton (parts : List (Facet × α)) (f : Facet) (w : α) :
    merge (parts ++ [(f, w)]) = (merge parts).add f w := by
  unfold merge
  rw [List.foldl_append]
  rfl

/-- Merging gives each facet one total. -/
theorem distinct_merge (parts : List (Facet × α)) : (merge parts).Distinct := by
  -- The weights are added from the left, so the last one is taken off.
  induction parts using List.reverseRecOn with
  | nil => exact List.nodup_nil
  | append_singleton rest part ih =>
    rw [merge_append_singleton]
    exact ih.add part.1 part.2

/-- Merging sums up the weights that a facet comes with, from the left. -/
theorem get?_merge (parts : List (Facet × α)) (f : Facet) : (merge parts).get? f =
    if occurrences parts f = [] then none else some ((occurrences parts f).foldl (· + ·) 0) := by
  induction parts using List.reverseRecOn with
  | nil => rfl
  | append_singleton rest part ih =>
    obtain ⟨f', w⟩ := part
    rw [merge_append_singleton]
    by_cases h : f' = f
    · subst h
      have more : occurrences (rest ++ [(f', w)]) f' = occurrences rest f' ++ [w] := by
        simp [occurrences]
      rw [get?_add_self, ih, more, List.foldl_append]
      by_cases first : occurrences rest f' = []
      · simp [first]
      · simp [first]
    · have same : occurrences (rest ++ [(f', w)]) f = occurrences rest f := by
        simp [occurrences, h]
      rw [get?_add_of_ne _ (Ne.symm h), ih, same]

theorem total_merge (parts : List (Facet × α)) (f : Facet) :
    (merge parts).total f = (occurrences parts f).foldl (· + ·) 0 := by
  rw [total, get?_merge]
  split
  · next none =>
    rw [none]
    rfl
  · rfl

/-- The facets of the totals are those of the parts. -/
theorem mem_facets_merge {parts : List (Facet × α)} {f : Facet} :
    f ∈ (merge parts).facets ↔ ∃ part ∈ parts, part.1 = f := by
  rw [← not_iff_not, ← get?_eq_none_iff, get?_merge]
  have none : occurrences parts f = [] ↔ ¬ ∃ part ∈ parts, part.1 = f := by
    rw [occurrences_eq_nil_iff]
    simp only [not_exists, not_and, ne_eq]
  rw [← none]
  split
  · next absent => simp [absent]
  · next occurs => simp [occurs]

/-! ### Parts in another order -/

section

variable {parts parts' : List (Facet × α)} (perm : parts.Perm parts')

include perm

/-- Parts in another order give the same totals just if they give each facet the same sum. -/
theorem merge_perm_iff : (merge parts).Perm (merge parts') ↔ ∀ f,
    (occurrences parts' f).foldl (· + ·) 0 = (occurrences parts f).foldl (· + ·) 0 := by
  simp only [← total_merge]
  constructor
  · intro totals f
    rw [total, total, get?_eq_of_perm (distinct_merge parts) totals]
  · intro same
    have facets : (merge parts).facets.Perm (merge parts').facets := by
      refine (List.perm_ext_iff_of_nodup (distinct_merge parts) (distinct_merge parts')).mpr ?_
      intro f
      simp only [mem_facets_merge, perm.mem_iff]
    rw [entries_eq (distinct_merge parts), entries_eq (distinct_merge parts')]
    simp only [same]
    exact facets.map _

/-- They do where no facet comes with two different weights. -/
theorem merge_perm_of_unique
    (unique : ∀ f w w', (f, w) ∈ parts → (f, w') ∈ parts → w = w') :
    (merge parts).Perm (merge parts') := by
  refine (merge_perm_iff perm).mpr fun f => congrArg (List.foldl (· + ·) 0) ?_
  have swapped := occurrences_perm perm f
  cases own : occurrences parts f with
  | nil =>
    rw [own] at swapped
    exact swapped.nil_eq.symm
  | cons w rest =>
    have first : (f, w) ∈ parts := mem_of_mem_occurrences (own ▸ List.mem_cons_self)
    have all : occurrences parts f = List.replicate (occurrences parts f).length w :=
      List.eq_replicate_iff.mpr ⟨rfl, fun w' mem =>
        unique f w' w (mem_of_mem_occurrences mem) first⟩
    rw [all] at swapped
    rw [← own, all]
    exact List.replicate_perm.mp swapped |>.symm

end

end

/-! ## Terms -/

section

variable {a b : Weights α}

/-- The facets of both, in the order of the first. -/
def common (a b : Weights α) : List Facet := a.facets.filter (· ∈ b.facets)

theorem mem_common {f : Facet} : f ∈ a.common b ↔ f ∈ a.facets ∧ f ∈ b.facets := by
  rw [common, List.mem_filter, decide_eq_true_iff]

theorem nodup_common (h : a.Distinct) : (a.common b).Nodup := h.filter _

theorem common_perm (ha : a.Distinct) (hb : b.Distinct) : (a.common b).Perm (b.common a) := by
  refine (List.perm_ext_iff_of_nodup (nodup_common ha) (nodup_common hb)).mpr fun f => ?_
  rw [mem_common, mem_common, and_comm]

variable [Mul α] [OfNat α 0]

/-- The terms of a squared length are the squares of the totals. -/
theorem squares_eq (h : a.Distinct) : a.squares = a.facets.map fun f => a.total f * a.total f := by
  conv_lhs => rw [squares, entries_eq h, List.map_map]
  rfl

/-- The products of the totals of the facets of both. -/
def commonTerms (a b : Weights α) : List α := (a.common b).map fun f => a.total f * b.total f

/-- These are the terms that walking through one side and looking up in the other gives. -/
theorem filterMap_eq_commonTerms (h : a.Distinct) (b : Weights α) :
    (a.filterMap fun (f, w) => (b.get? f).map (w * ·)) = a.commonTerms b := by
  have term (f : Facet) : (b.get? f).map (a.total f * ·) =
      if f ∈ b.facets then some (a.total f * b.total f) else none := by
    rw [get?_eq_ite]
    split <;> rfl
  conv_lhs => rw [entries_eq h, List.filterMap_map]
  simp only [Function.comp_def, term]
  rw [commonTerms, common, ← List.filterMap_eq_map, List.filterMap_filter]
  simp

variable (comm : ∀ x y : α, x * y = y * x)

include comm

theorem commonTerms_swap (ha : a.Distinct) (hb : b.Distinct) :
    (a.commonTerms b).Perm (b.commonTerms a) := by
  have terms : (fun f => a.total f * b.total f) = fun f => b.total f * a.total f :=
    funext fun f => comm _ _
  rw [commonTerms, terms]
  exact (common_perm ha hb).map _

/-- The terms of a scalar product are the products of the totals of the facets of both, up to
order. -/
theorem products_perm (ha : a.Distinct) (hb : b.Distinct) :
    (a.products b).Perm (a.commonTerms b) := by
  unfold products
  -- The shorter side is walked through: if it is the second one, the factors change places.
  by_cases shorter : a.length ≤ b.length
  · rw [if_pos shorter]
    exact .of_eq (filterMap_eq_commonTerms ha b)
  · rw [if_neg shorter]
    have terms : (b.filterMap fun (f, w) => (a.get? f).map (w * ·)) = b.commonTerms a :=
      filterMap_eq_commonTerms hb a
    exact (List.Perm.of_eq terms).trans (commonTerms_swap comm hb ha)

/-- Which side comes first does not matter for the terms of a scalar product, up to order. -/
theorem products_swap (ha : a.Distinct) (hb : b.Distinct) :
    (a.products b).Perm (b.products a) :=
  (products_perm comm ha hb).trans
    ((commonTerms_swap comm ha hb).trans (products_perm comm hb ha).symm)

/-- Nor does the order of the entries on either side. -/
theorem products_perm_of_perm {a' b' : Weights α} (ha : a.Distinct) (hb : b.Distinct)
    (pa : a.Perm a') (pb : b.Perm b') : (a.products b).Perm (a'.products b') := by
  have ha' := ha.of_perm pa
  have hb' := hb.of_perm pb
  have facets : (a.common b).Perm (a'.common b') := by
    refine (List.perm_ext_iff_of_nodup (nodup_common ha) (nodup_common ha')).mpr fun f => ?_
    rw [mem_common, mem_common, mem_facets_iff_of_perm pa, mem_facets_iff_of_perm pb]
  have terms : (fun f => a.total f * b.total f) = fun f => a'.total f * b'.total f := by
    funext f
    rw [total, total, get?_eq_of_perm ha pa, get?_eq_of_perm hb pb]
    rfl
  have common : (a.commonTerms b).Perm (a'.commonTerms b') := by
    rw [commonTerms, terms]
    exact facets.map _
  exact (products_perm comm ha hb).trans (common.trans (products_perm comm ha' hb').symm)

end

end Weights

end Concordance
