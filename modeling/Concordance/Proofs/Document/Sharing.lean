import Concordance.Document.Indexer
import Concordance.Proofs.Analysis.PureFactory
import Concordance.Proofs.Document.Facets

/-!
# Shared aspects

An indexer makes an aspect when it is asked for it first, and hands out the same one ever
after. It is an aspect with the name and the kind that it is asked for, so sharing cannot be
seen in a profile: an indexer gives what its registry alone gives, and leaves the registry as
that leaves it. This holds whatever the factory does.

* `Aspects.share_fst`, `Aspects.share_share`: what is handed out, first and ever after.
* `Mirrors`, `Mirrors.bind`: an indexer does with its registry what is done without sharing.
* `Analyzer.aspect_of_mem`: all facets of a field are of one aspect.
* `Indexer.mirrors_profile`: profiles of an indexer and of its registry.
-/

namespace Concordance

open Registry

variable {σ α β : Type}

namespace Aspects

/-- What is found under a name and a kind is the aspect with these. -/
theorem eq_of_get? {t : Aspects} {name : String} {kind : ValueKind} {a : Aspect}
    (found : t.get? name kind = some a) : a = ⟨name, kind⟩ := by
  obtain ⟨before, after, split, -⟩ := List.lookup_eq_some_iff.mp found
  refine t.own ((name, kind), a) ?_
  rw [split]
  exact List.mem_append_right _ List.mem_cons_self

/-- The aspect that is handed out has the name and the kind that were asked for. -/
theorem share_fst (t : Aspects) (name : String) (kind : ValueKind) :
    (share name kind t).1 = ⟨name, kind⟩ := by
  unfold share
  split
  · next a found => exact eq_of_get? found
  · rfl

theorem get?_share (t : Aspects) (name : String) (kind : ValueKind) :
    (share name kind t).2.get? name kind = some (share name kind t).1 := by
  unfold share
  split
  · next a found => exact found
  · simp [get?, make]

/-- What was made once is handed out again, and nothing is made anew. -/
theorem share_share (t : Aspects) (name : String) (kind : ValueKind) :
    share name kind (share name kind t).2 = share name kind t := by
  rw [share, get?_share]
  rfl

end Aspects

/-! ## Indexers and their registries -/

/-- The indexer gives what its registry gives, and leaves the registry as that is left. -/
def Mirrors (m : StateM (Indexer σ) α) (m' : StateM (Registry σ) α) : Prop :=
  ∀ s, (m.run s).1 = (m'.run s.registry).1 ∧ (m.run s).2.registry = (m'.run s.registry).2

namespace Mirrors

theorem pure (x : α) : Mirrors (pure x : StateM (Indexer σ) α) (pure x) := fun _ => ⟨rfl, rfl⟩

theorem ask (m : StateM (Registry σ) α) : Mirrors (Indexer.ask m) m := fun _ => ⟨rfl, rfl⟩

theorem bind {m : StateM (Indexer σ) α} {m' : StateM (Registry σ) α}
    {k : α → StateM (Indexer σ) β} {k' : α → StateM (Registry σ) β} (hm : Mirrors m m')
    (hk : ∀ x, Mirrors (k x) (k' x)) : Mirrors (m >>= k) (m' >>= k') := by
  intro s
  obtain ⟨value, left⟩ := hm s
  rw [run_bind, run_bind, value, ← left]
  exact hk _ _

section

variable {l : List α}

theorem mapM {k : α → StateM (Indexer σ) β} {k' : α → StateM (Registry σ) β}
    (hk : ∀ x, Mirrors (k x) (k' x)) : Mirrors (l.mapM k) (l.mapM k') := by
  induction l with
  | nil => exact .pure []
  | cons x rest ih =>
    rw [List.mapM_cons, List.mapM_cons]
    exact (hk x).bind fun first => ih.bind fun later => .pure (first :: later)

theorem flatMapM {k : α → StateM (Indexer σ) (List β)} {k' : α → StateM (Registry σ) (List β)}
    (hk : ∀ x, Mirrors (k x) (k' x)) : Mirrors (l.flatMapM k) (l.flatMapM k') := by
  induction l with
  | nil => exact .pure []
  | cons x rest ih =>
    rw [List.flatMapM_cons, List.flatMapM_cons]
    exact (hk x).bind fun first => ih.bind fun later => .pure (first ++ later)

end

end Mirrors

/-! ## Profiles -/

/-- The facets of a field are of the aspect with its name and the kind of its values. -/
theorem Analyzer.aspect_of_mem (a : Analyzer) {f : Field} {kind : ValueKind}
    (own : f.kind? = some kind) {entry : Facet × Float} (mem : entry ∈ a.fieldFacets f) :
    entry.1.aspect = ⟨f.aspectName, kind⟩ := by
  rcases a.fieldFacets_cases f with ⟨-, none⟩ | ⟨text, value, apart, words⟩ |
    ⟨value, present, kept, whole⟩
  · rw [none] at mem
    cases mem
  · rw [words] at mem
    obtain ⟨form, -, rfl⟩ := mem_formFacets.mp mem
    rw [Field.kind?, value, apart] at own
    cases own
    rfl
  · rw [whole, List.mem_singleton] at mem
    rw [mem, ← Option.some.inj ((Field.kind?_of_kept present kept).symm.trans own)]

/-- To give the facets of a field this aspect changes nothing. -/
theorem Analyzer.map_aspect_fieldFacets (a : Analyzer) {f : Field} {kind : ValueKind}
    (own : f.kind? = some kind) :
    (a.fieldFacets f).map (fun (facet, w) => ({ facet with aspect := ⟨f.aspectName, kind⟩ }, w)) =
      a.fieldFacets f := by
  refine (List.map_congr_left fun entry mem => ?_).trans (List.map_id _)
  rw [← a.aspect_of_mem own mem]
  rfl

namespace Indexer

theorem mirrors_fieldFacets (language : Language) (f : Field) :
    Mirrors (fieldFacets language f : StateM (Indexer σ) _) (f.facets language) := by
  intro s
  unfold fieldFacets
  rw [run_bind]
  cases own : f.kind? with
  | none => exact ⟨rfl, rfl⟩
  | some kind =>
    have shared := s.aspects.share_fst f.aspectName kind
    refine ⟨?_, rfl⟩
    show ((f.facets language).run s.registry).1.map (fun (facet, w) =>
      ({ facet with aspect := (Aspects.share f.aspectName kind s.aspects).1 }, w)) =
        ((f.facets language).run s.registry).1
    rw [shared, (uses_fieldFacets f).value_eq, Analyzer.map_aspect_fieldFacets _ own]

/-- The profile that an indexer builds is the one that its registry gives. -/
theorem mirrors_profile (d : Document) :
    Mirrors (profile d : StateM (Indexer σ) Profile) d.profile :=
  (Mirrors.flatMapM (mirrors_fieldFacets d.language)).bind fun facets =>
    .pure (Profile.ofList (numbered facets))

end Indexer

end Concordance
