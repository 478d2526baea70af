import Concordance.Analysis.Words
import Concordance.Document.Basic

/-!
# The profile of a document

The fields of a document are walked through in order. A field without a value adds
nothing. A text that is to be taken apart adds one component for each form that
stands for one of its words, in the order of first occurrence, weighted with the
number of those words. Any other value adds one component of weight one. The
components of the whole profile are numbered from zero.

Words are counted in 32 bits. A counter that comes back to zero is taken for a new
one, so a form of `2 ^ 32` words or more loses that many of them, and is listed again
with the next one.

* `tally`: how often each text of a list occurs.
* `formFacets`: the facets of words, from the forms that stand for them.
* `Document.profile`: the profile of a document.
-/

namespace Concordance

variable {σ : Type}

/-! ## Counting -/

/-- Counts one more occurrence of `s`. -/
def countOne (counters : List (String × UInt32)) (s : String) : List (String × UInt32) :=
  match counters with
  | [] => [(s, 1)]
  | (s', n) :: rest => if s' = s then (s', n + 1) :: rest else (s', n) :: countOne rest s

theorem lookup_countOne (counters : List (String × UInt32)) (s t : String) :
    (countOne counters s).lookup t =
      if t = s then some ((counters.lookup t).getD 0 + 1) else counters.lookup t := by
  induction counters with
  | nil =>
    rw [countOne, List.lookup_cons]
    by_cases h : t = s <;> simp [h, beq_eq_false_iff_ne.mpr]
  | cons entry rest ih =>
    obtain ⟨s', n⟩ := entry
    by_cases h : s' = s
    · subst h
      by_cases ht : t = s' <;> simp [countOne, List.lookup_cons, ht, beq_eq_false_iff_ne.mpr]
    · by_cases ht : t = s' <;> simp [countOne, h, List.lookup_cons, ht, ih, beq_eq_false_iff_ne.mpr]

/-- The texts that were listed so far, in order, and the counters of texts. -/
structure Tally where
  order : List String
  counters : List (String × UInt32)

namespace Tally

/-- The counter of a text. -/
def get (t : Tally) (s : String) : UInt32 := (t.counters.lookup s).getD 0

/-- Counts one more occurrence of `s`, and lists it if its counter is zero. -/
def add (t : Tally) (s : String) : Tally where
  order := if t.get s = 0 then t.order ++ [s] else t.order
  counters := countOne t.counters s

/-- The texts of a list, counted one after the other. -/
def of (texts : List String) : Tally := texts.foldl add ⟨[], []⟩

/-- One counter goes up, and the others stay. -/
theorem get_add (t : Tally) (s s' : String) :
    (t.add s).get s' = if s' = s then t.get s' + 1 else t.get s' := by
  simp only [get, add, lookup_countOne]
  split <;> rfl

end Tally

/-- How often each text of a list occurs, in the order of first occurrence. -/
@[irreducible]
def tally (texts : List String) : List (String × UInt32) :=
  let t := Tally.of texts
  t.order.map fun s => (s, t.get s)

/-! ## Fields and documents -/

/-- The name of the aspect that a field belongs to. A field with a blank name
belongs to the unknown aspect. -/
def Field.aspectName (f : Field) : String :=
  if Text.allBlank f.name.toList then Aspect.unknownName else f.name

/-- The facet of a form of words, in texts with a name. -/
def Facet.ofWord (name form : String) : Facet := ⟨⟨name, .word⟩, .text form⟩

theorem Facet.ofWord_inj {name name' form form' : String} :
    ofWord name form = ofWord name' form' ↔ name = name' ∧ form = form' := by
  simp [ofWord]

/-- The weighted facets of the words of a text with a name, from their forms. -/
def formFacets (name : String) (forms : List String) : List (Facet × Float) :=
  (tally forms).map fun (form, n) => (.ofWord name form, Float.ofNat n.toNat)

/-- The weighted words of a text, as facets of the aspect called `name`. -/
def wordFacets (name text : String) (language : Language) :
    StateM (Registry σ) (List (Facet × Float)) := do
  let words ← Words.extract text language
  let forms ← words.mapM fun word => Words.canonical word language
  return formFacets name forms

/-- The weighted facets that a field adds to the profile. -/
def Field.facets (language : Language) (f : Field) :
    StateM (Registry σ) (List (Facet × Float)) :=
  match f.value with
  | none => return []
  | some value =>
    match value, f.extractWords with
    | .text s, true => wordFacets f.aspectName s language
    | value, _ => return [(⟨⟨f.aspectName, value.kind⟩, value⟩, 1.0)]

/-- The components of weighted facets, numbered from zero. The numbers do not end here, where
counters of 32 bits would start again after `2 ^ 32` components. -/
def numbered (facets : List (Facet × Float)) : List Component :=
  facets.zipIdx.map fun ((f, w), i) => ⟨f, w, i⟩

/-- The profile of a document. -/
def Document.profile (d : Document) : StateM (Registry σ) Profile := do
  return .ofList (numbered (← d.fields.flatMapM (Field.facets d.language)))

end Concordance
