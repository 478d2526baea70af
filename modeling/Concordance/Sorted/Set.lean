/-!
# Sets kept in ascending order

A finite set is the list of its elements, strictly ascending. Its first element
is its least one, and two sets with the same elements are equal.

* `SortedSet.mem_insert`, `SortedSet.mem_ofList`: what is in a set that is built.
* `SortedSet.ext_mem`: a set is determined by its elements.
-/

namespace Concordance

open Std

/-- A finite set of `α`, as its elements in strictly ascending order. -/
structure SortedSet (α : Type) [Ord α] where
  toList : List α
  ascending : toList.Pairwise fun a b => compare a b = .lt

namespace SortedSet

variable {α : Type} [Ord α]

/-- Puts `a` into an ascending list, unless it is there. -/
def insertElement (a : α) : List α → List α
  | [] => [a]
  | b :: rest =>
    match compare a b with
    | .lt => a :: b :: rest
    | .eq => b :: rest
    | .gt => b :: insertElement a rest

theorem mem_insertElement [LawfulEqOrd α] {a b : α} {l : List α} :
    b ∈ insertElement a l ↔ b = a ∨ b ∈ l := by
  induction l with
  | nil => simp [insertElement]
  | cons c rest ih =>
    unfold insertElement
    split
    · simp
    · rename_i heq
      obtain rfl := LawfulEqOrd.eq_of_compare heq
      simp
    · simp [ih, or_left_comm]

theorem pairwise_insertElement [TransOrd α] [LawfulEqOrd α] (a : α) {l : List α}
    (h : l.Pairwise fun a b => compare a b = .lt) :
    (insertElement a l).Pairwise fun a b => compare a b = .lt := by
  induction l with
  | nil => simp [insertElement]
  | cons b rest ih =>
    obtain ⟨head, tail⟩ := List.pairwise_cons.mp h
    unfold insertElement
    split
    · rename_i hlt
      refine List.pairwise_cons.mpr ⟨fun c hc => ?_, h⟩
      rcases List.mem_cons.mp hc with rfl | hc
      · exact hlt
      · exact TransCmp.lt_trans hlt (head c hc)
    · exact h
    · rename_i hgt
      refine List.pairwise_cons.mpr ⟨fun c hc => ?_, ih tail⟩
      rcases mem_insertElement.mp hc with rfl | hc
      · exact OrientedCmp.lt_of_gt hgt
      · exact head c hc

/-- The set without elements. -/
def empty : SortedSet α := ⟨[], .nil⟩

instance : EmptyCollection (SortedSet α) := ⟨empty⟩

instance : Inhabited (SortedSet α) := ⟨empty⟩

instance : Membership α (SortedSet α) := ⟨fun s a => a ∈ s.toList⟩

/-- The set with `a` in it. -/
def insert [TransOrd α] [LawfulEqOrd α] (s : SortedSet α) (a : α) : SortedSet α :=
  ⟨insertElement a s.toList, pairwise_insertElement a s.ascending⟩

/-- The set of the elements of a list. -/
def ofList [TransOrd α] [LawfulEqOrd α] (l : List α) : SortedSet α := l.foldl insert empty

/-- Whether `a` is in the set. -/
def contains [BEq α] (s : SortedSet α) (a : α) : Bool := s.toList.contains a

/-- The least element, if there is one. -/
def min? (s : SortedSet α) : Option α := s.toList.head?

/-- Whether the set has no element. -/
def isEmpty (s : SortedSet α) : Bool := s.toList.isEmpty

theorem mem_def {s : SortedSet α} {a : α} : a ∈ s ↔ a ∈ s.toList := Iff.rfl

theorem contains_iff [BEq α] [LawfulBEq α] {s : SortedSet α} {a : α} :
    s.contains a = true ↔ a ∈ s := by
  simp [contains, mem_def]

theorem isEmpty_iff {s : SortedSet α} : s.isEmpty = true ↔ ∀ a, a ∉ s := by
  simp [isEmpty, mem_def, List.eq_nil_iff_forall_not_mem]

@[simp] theorem not_mem_empty (a : α) : a ∉ (empty : SortedSet α) := by simp [mem_def, empty]

@[simp] theorem mem_insert [TransOrd α] [LawfulEqOrd α] {s : SortedSet α} {a b : α} :
    b ∈ s.insert a ↔ b = a ∨ b ∈ s :=
  mem_insertElement

theorem mem_foldl_insert [TransOrd α] [LawfulEqOrd α] {l : List α} {s : SortedSet α} {a : α} :
    a ∈ l.foldl insert s ↔ a ∈ l ∨ a ∈ s := by
  induction l generalizing s with
  | nil => simp
  | cons b rest ih => simp [ih, or_left_comm, or_assoc]

@[simp] theorem mem_ofList [TransOrd α] [LawfulEqOrd α] {l : List α} {a : α} :
    a ∈ ofList l ↔ a ∈ l := by
  simp [ofList, mem_foldl_insert]

/-! ## Extensionality -/

theorem eq_of_mem_iff [TransOrd α] {l₁ l₂ : List α}
    (h₁ : l₁.Pairwise fun a b => compare a b = .lt)
    (h₂ : l₂.Pairwise fun a b => compare a b = .lt) (h : ∀ a, a ∈ l₁ ↔ a ∈ l₂) : l₁ = l₂ := by
  induction l₁ generalizing l₂ with
  | nil => exact (List.eq_nil_iff_forall_not_mem.mpr fun a ha => by simpa using (h a).mpr ha).symm
  | cons a rest₁ ih =>
    obtain ⟨head₁, tail₁⟩ := List.pairwise_cons.mp h₁
    cases l₂ with
    | nil => simpa using h a
    | cons b rest₂ =>
      obtain ⟨head₂, tail₂⟩ := List.pairwise_cons.mp h₂
      have irrefl (c : α) : compare c c ≠ .lt := by simp [ReflCmp.compare_self]
      have heads : a = b := by
        rcases List.mem_cons.mp ((h a).mp (by simp)) with rfl | ha
        · rfl
        · rcases List.mem_cons.mp ((h b).mpr (by simp)) with rfl | hb
          · rfl
          · exact absurd (TransCmp.lt_trans (head₁ b hb) (head₂ a ha)) (irrefl a)
      subst heads
      congr 1
      refine ih tail₁ tail₂ fun c => ?_
      have hc := h c
      simp only [List.mem_cons] at hc
      constructor
      · intro mem
        exact (hc.mp (.inr mem)).resolve_left fun eq => irrefl a (by simpa [eq] using head₁ c mem)
      · intro mem
        exact (hc.mpr (.inr mem)).resolve_left fun eq => irrefl a (by simpa [eq] using head₂ c mem)

/-- Two sets with the same elements are the same set. -/
theorem ext_mem [TransOrd α] {s t : SortedSet α} (h : ∀ a, a ∈ s ↔ a ∈ t) : s = t := by
  obtain ⟨l₁, h₁⟩ := s
  obtain ⟨l₂, h₂⟩ := t
  obtain rfl : l₁ = l₂ := eq_of_mem_iff h₁ h₂ h
  rfl

end SortedSet

end Concordance
