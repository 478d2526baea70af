import Concordance.Proofs.Binary64.Reordering
import Concordance.Proofs.Binary64.TotalOrder

/-!
# Sums of bit patterns

What is no number has many bit patterns. All of them are read as one value, but each has a place of
its own in the total order. So the terms of a sum are put in order as patterns, which leaves only one
order, and are added up from there. Whatever an addition of patterns does, it does not see in which
order the terms came. An addition of numbers may give any pattern where the result is no number, and
so may the sum. All that it may come out as has one value, that of the ordered sum of the values.

* `NaNPattern`, `ofBits_eq_iff`: which patterns have one value.
* `inOrder_eq_of_perm`, `foldl_inOrder`: patterns in order, and the sum of their values.
* `AddsUp`, `sums_iff`: the patterns that a sum may come out as.
* `sums_ignore_order`: the order of the terms does not show.
-/

namespace Concordance.Binary64

open Float.Model Float.Model.UnpackedFloat Float.Model.Format

variable {a b acc term total : UInt64} {terms terms' rest : List UInt64}

/-! ## Patterns and their values -/

/-- The pattern stands for no number: its exponent is the greatest, and its mantissa is not zero. -/
def NaNPattern (bits : UInt64) : Prop :=
  bits.toNat / 2 ^ 52 % 2 ^ 11 = 2047 ∧ bits.toNat % 2 ^ 52 ≠ 0

instance (bits : UInt64) : Decidable (NaNPattern bits) :=
  inferInstanceAs (Decidable (_ ∧ _))

theorem isNaNBits_iff : @isNaNBits binary64 a.toBitVec = true ↔ NaNPattern a := by
  have exponent : @unpackExponent binary64 a.toBitVec = -1#11 ↔ _ := BitVec.toNat_inj.symm
  have mantissa : @unpackMantissa binary64 a.toBitVec = 0#52 ↔ _ := BitVec.toNat_inj.symm
  rw [toNat_unpackExponent] at exponent
  rw [toNat_unpackMantissa] at mantissa
  rw [isNaNBits, decide_eq_true_iff]
  exact and_congr exponent (not_congr mantissa)

/-- A pattern is kept with its value, unless it stands for no number. -/
theorem toBits_ofBits (a : UInt64) :
    (Float.ofBits a).toBits = if NaNPattern a then Float.nan.toBits else a := by
  have packed : (Float.ofBits a).toBits.toBitVec =
      if @isNaNBits binary64 a.toBitVec then packedNaN binary64 else a.toBitVec := pack_unpack _
  refine UInt64.toBitVec_inj.mp (packed.trans ?_)
  by_cases nan : NaNPattern a
  · rw [if_pos (isNaNBits_iff.mpr nan), if_pos nan]
    rfl
  · rw [if_neg (mt isNaNBits_iff.mp nan), if_neg nan]

theorem ofBits_eq_nan_iff : Float.ofBits a = Float.nan ↔ NaNPattern a := by
  rw [← Float.toBits_inj, toBits_ofBits]
  by_cases nan : NaNPattern a
  · rw [if_pos nan]
    exact iff_of_true rfl nan
  · rw [if_neg nan]
    refine iff_of_false (fun same => nan ?_) nan
    rw [same]
    exact isNaNBits_iff.mp isNaNBits_packedNaN

/-- The patterns are the same, or neither of them stands for a number. -/
def SameValue (a b : UInt64) : Prop := a = b ∨ NaNPattern a ∧ NaNPattern b

/-- Patterns have one value if they are the same, or if neither of them stands for a number. -/
theorem ofBits_eq_iff : Float.ofBits a = Float.ofBits b ↔ SameValue a b := by
  constructor
  · intro same
    by_cases nan : NaNPattern a
    · refine .inr ⟨nan, ofBits_eq_nan_iff.mp ?_⟩
      rw [← same, ofBits_eq_nan_iff.mpr nan]
    · have nan' : ¬ NaNPattern b := by rwa [← ofBits_eq_nan_iff, ← same, ofBits_eq_nan_iff]
      have bits := Float.toBits_inj.mpr same
      rw [toBits_ofBits, toBits_ofBits, if_neg nan, if_neg nan'] at bits
      exact .inl bits
  · rintro (rfl | ⟨nan, nan'⟩)
    · rfl
    · rw [ofBits_eq_nan_iff.mpr nan, ofBits_eq_nan_iff.mpr nan']

/-! ## Patterns in order -/

/-- Whether the pattern `a` comes no later than `b` in the total order. -/
def placeLE (a b : UInt64) : Bool := place a ≤ place b

/-- Patterns in ascending order. -/
def inOrder (terms : List UInt64) : List UInt64 := terms.mergeSort placeLE

/-- Patterns are put in the same order, whatever order they come in. -/
theorem inOrder_eq_of_perm (h : terms.Perm terms') : inOrder terms = inOrder terms' :=
  mergeSort_eq_of_perm place_injective h

theorem mem_inOrder : a ∈ inOrder terms ↔ a ∈ terms :=
  List.mem_mergeSort

/-- Patterns of numbers are put in the order of these. -/
theorem map_inOrder (numbers : ∀ a ∈ terms, ¬ NaNPattern a) :
    (inOrder terms).map Float.ofBits = (terms.map Float.ofBits).mergeSort totalLE := by
  have key (a : UInt64) (mem : a ∈ terms) : totalKey (Float.ofBits a) = place a := by
    rw [totalKey_eq_place, toBits_ofBits, if_neg (numbers a mem)]
  refine List.map_mergeSort fun a ha b hb => ?_
  rw [placeLE, totalLE, key a ha, key b hb]

/-! ## The sum of the values -/

theorem nan_add (x : Float) : Float.nan + x = Float.nan := rfl

theorem add_nan (x : Float) : x + Float.nan = Float.nan := by
  have absorbed (u : UnpackedFloat) : u.add binary64 .notANumber = .notANumber := by
    cases u <;> rfl
  exact congrArg (fun u => Float.ofModel (Float.Model.pack u)) (absorbed (unpacked x))

theorem foldl_nan (terms : List Float) : terms.foldl (· + ·) Float.nan = Float.nan := by
  induction terms with
  | nil => rfl
  | cons x rest ih => rw [List.foldl_cons, nan_add, ih]

/-- A term that is no number leaves no number, wherever it stands. -/
theorem foldl_of_nan_mem {terms : List Float} (mem : Float.nan ∈ terms) (x : Float) :
    terms.foldl (· + ·) x = Float.nan := by
  obtain ⟨before, after, rfl⟩ := List.append_of_mem mem
  rw [List.foldl_append, List.foldl_cons, add_nan, foldl_nan]

theorem orderedSum_of_nan_mem {terms : List Float} (mem : Float.nan ∈ terms) :
    orderedSum terms = Float.nan :=
  foldl_of_nan_mem (List.mem_mergeSort.mpr mem) _

/-- To put patterns in order is as good as to put their values in order. -/
theorem foldl_inOrder (terms : List UInt64) :
    ((inOrder terms).map Float.ofBits).foldl (· + ·) (-0.0) =
      orderedSum (terms.map Float.ofBits) := by
  by_cases numbers : ∀ a ∈ terms, ¬ NaNPattern a
  · rw [map_inOrder numbers, orderedSum]
  · -- The places of these patterns are lost with their values, but so is the whole sum.
    simp only [not_forall, not_not] at numbers
    obtain ⟨a, mem, nan⟩ := numbers
    have value := ofBits_eq_nan_iff.mpr nan
    rw [foldl_of_nan_mem (List.mem_map.mpr ⟨a, mem_inOrder.mpr mem, value⟩),
      orderedSum_of_nan_mem (List.mem_map.mpr ⟨a, mem, value⟩)]

/-! ## Sums of patterns -/

/-- The pattern of the negative zero, that a sum starts from. -/
def start : UInt64 := 0x8000000000000000

theorem ofBits_start : Float.ofBits start = -0.0 := rfl

/-- The sum of patterns in ascending order, from the left, where `add` adds two of them. -/
def patternSum (add : UInt64 → UInt64 → UInt64) (terms : List UInt64) : UInt64 :=
  (inOrder terms).foldl add start

/-- What adding up terms from the left onto a pattern may come to: each addition gives some pattern
whose value is the sum of the two values. -/
inductive AddsUp : UInt64 → List UInt64 → UInt64 → Prop
  | done (total : UInt64) : AddsUp total [] total
  | term {acc term next total : UInt64} {rest : List UInt64}
      (adds : Float.ofBits next = Float.ofBits acc + Float.ofBits term)
      (more : AddsUp next rest total) : AddsUp acc (term :: rest) total

theorem addsUp_nil_iff : AddsUp acc [] total ↔ total = acc := by
  constructor
  · rintro ⟨⟩
    rfl
  · rintro rfl
    exact .done total

/-- If there is a term at all, the result is any pattern with the value of the sum. -/
theorem addsUp_cons_iff : AddsUp acc (term :: rest) total ↔
    Float.ofBits total = ((term :: rest).map Float.ofBits).foldl (· + ·) (Float.ofBits acc) := by
  induction rest generalizing acc term with
  | nil =>
    constructor
    · rintro (_ | ⟨adds, more⟩)
      rw [addsUp_nil_iff.mp more, adds, List.map_singleton, List.foldl_cons, List.foldl_nil]
    · exact fun adds => .term adds (.done total)
  | cons term' rest ih =>
    constructor
    · rintro (_ | ⟨adds, more⟩)
      rw [ih.mp more, adds, List.map_cons (a := term), List.foldl_cons]
    · intro sum
      have adds := Float.ofBits_toBits (Float.ofBits acc + Float.ofBits term)
      refine .term adds (ih.mpr ?_)
      rw [sum, adds, List.map_cons (a := term), List.foldl_cons]

/-- The sum of patterns in ascending order may come out as `total`. -/
def Sums (terms : List UInt64) (total : UInt64) : Prop := AddsUp start (inOrder terms) total

/-- A sum may come out as any pattern with the value of the ordered sum of the values. -/
theorem sums_iff :
    Sums terms total ↔ Float.ofBits total = orderedSum (terms.map Float.ofBits) := by
  rw [← foldl_inOrder, Sums]
  cases inOrder terms with
  | nil =>
    have number : ¬ NaNPattern start := by decide
    rw [addsUp_nil_iff, List.map_nil, List.foldl_nil, ← ofBits_start, ofBits_eq_iff]
    exact ⟨.inl, fun same => same.resolve_right fun nan => number nan.2⟩
  | cons term rest => rw [addsUp_cons_iff, ofBits_start]

/-- The order of the terms does not show in a sum. Put in order as patterns, the terms are added in
one way only, whatever an addition of patterns does. With the addition of numbers, the sum comes out
as one pattern, or as some pattern that stands for no number, and its value is that of the sum of
the values. -/
theorem sums_ignore_order (h : terms.Perm terms') :
    (∀ add : UInt64 → UInt64 → UInt64, patternSum add terms = patternSum add terms') ∧
      (∀ total total', Sums terms total → Sums terms' total' → SameValue total total') ∧
      orderedSum (terms.map Float.ofBits) = orderedSum (terms'.map Float.ofBits) ∧
      ∀ total, Sums terms total ↔ Float.ofBits total = orderedSum (terms.map Float.ofBits) := by
  have sameSum := orderedSum_eq_of_perm (h.map Float.ofBits)
  refine ⟨fun add => ?_, fun total total' sum sum' => ?_, sameSum, fun total => sums_iff⟩
  · rw [patternSum, inOrder_eq_of_perm h, patternSum]
  · rw [← ofBits_eq_iff, sums_iff.mp sum, sums_iff.mp sum', sameSum]

/-- Patterns of two signs and mantissas that stand for no number, both infinities, both zeros, and a
number that is repeated. -/
def assorted : List UInt64 :=
  [0xfff0000000000001, 0x7ff8000000000002, 0x7ff0000000000000, 0xfff0000000000000, 0x0,
    0x8000000000000000, 0x3ff0000000000000, 0x3ff0000000000000]

theorem sums_ignore_order_assorted : assorted.Perm assorted.reverse ∧
    (∀ add : UInt64 → UInt64 → UInt64,
      patternSum add assorted = patternSum add assorted.reverse) ∧
    ∀ total total', Sums assorted total → Sums assorted.reverse total' →
      SameValue total total' := by
  have perm : assorted.Perm assorted.reverse := (List.reverse_perm assorted).symm
  obtain ⟨patterns, values, -, -⟩ := sums_ignore_order perm
  exact ⟨perm, patterns, values⟩

end Concordance.Binary64
