import Concordance.Document.Profile

/-!
# Indexers

An indexer builds the profiles of documents, one after the other. It asks one registry
for analyzers, and it makes each aspect once: all facets of an aspect share it, from
whatever document they are.

* `Aspects.share`: the aspect with a name and a kind of values.
* `Indexer.profile`: the profile of a document.
-/

namespace Concordance

/-- The aspects that were made so far, each under its name and its kind of values. -/
structure Aspects where
  table : List ((String × ValueKind) × Aspect)
  own : ∀ entry ∈ table, entry.2 = ⟨entry.1.1, entry.1.2⟩

namespace Aspects

instance : EmptyCollection Aspects := ⟨[], nofun⟩

/-- The aspect with this name and this kind, if it was made. -/
def get? (t : Aspects) (name : String) (kind : ValueKind) : Option Aspect :=
  t.table.lookup (name, kind)

/-- Makes an aspect and keeps it. -/
def make (t : Aspects) (name : String) (kind : ValueKind) : Aspects where
  table := ((name, kind), ⟨name, kind⟩) :: t.table
  own entry mem := by
    rcases List.mem_cons.mp mem with rfl | mem
    · rfl
    · exact t.own entry mem

/-- The aspect with this name and this kind. It is made the first time. -/
def share (name : String) (kind : ValueKind) : StateM Aspects Aspect := fun t =>
  match t.get? name kind with
  | some a => (a, t)
  | none => (⟨name, kind⟩, t.make name kind)

end Aspects

/-- The kind of the values that a field adds to the profile, if it has a value. -/
def Field.kind? (f : Field) : Option ValueKind :=
  f.value.map fun value =>
    match value, f.extractWords with
    | .text _, true => .word
    | value, _ => value.kind

/-- A value that is not taken apart is added with its own kind. -/
theorem Field.kind?_of_kept {f : Field} {value : FacetValue} (present : f.value = some value)
    (kept : f.extractWords = true → value.kind ≠ .text) : f.kind? = some value.kind := by
  rw [kind?, present, Option.map_some]
  split
  · next apart => exact absurd rfl (kept apart)
  · rfl

/-- What is needed to build profiles: a registry of analyzers, and the aspects that
are shared. -/
structure Indexer (σ : Type) where
  registry : Registry σ
  aspects : Aspects

namespace Indexer

variable {σ α : Type}

/-- An indexer in front of a registry, with no aspect made. -/
def new (registry : Registry σ) : Indexer σ := ⟨registry, ∅⟩

/-- Does something with the registry alone. -/
def ask (m : StateM (Registry σ) α) : StateM (Indexer σ) α := fun s =>
  let (x, registry) := m s.registry
  (x, { s with registry })

/-- The shared aspect with a name and a kind of values. -/
def aspect (name : String) (kind : ValueKind) : StateM (Indexer σ) Aspect := fun s =>
  let (a, aspects) := Aspects.share name kind s.aspects
  (a, { s with aspects })

/-- The weighted facets that a field adds to the profile. All of them share an aspect. -/
def fieldFacets (language : Language) (f : Field) :
    StateM (Indexer σ) (List (Facet × Float)) := do
  let facets ← ask (f.facets language)
  match f.kind? with
  | none => return facets
  | some kind =>
    let shared ← aspect f.aspectName kind
    return facets.map fun (facet, w) => ({ facet with aspect := shared }, w)

/-- The profile of a document. -/
def profile (d : Document) : StateM (Indexer σ) Profile := do
  return .ofList (numbered (← d.fields.flatMapM (fieldFacets d.language)))

end Indexer

end Concordance
