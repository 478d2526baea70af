import Concordance.Proofs.Analysis.Served
import Concordance.Proofs.Binary64.Naturals
import Concordance.Proofs.Document.Tallies
import Concordance.Proofs.Profile.Totals
import Concordance.Proofs.Profile.Valid

/-!
# The facets of a document

The profile of a document is a function of the analyzer that serves its language. A field adds
nothing, or the words of its text, counted by the forms that stand for them, or its value as it is.
The components are numbered one after the other, so none of them is rejected, and the totals of the
profile are those of its facets.

* `Analyzer.profile`, `uses_profile`, `Registry.built`: the profile, from the analyzer.
* `weights_ofList_numbered`: the totals.
* `Analyzer.fieldFacets_cases`: all that a field can add.
* `Analyzer.eq_of_mem_facets`: fields of different names give no facet two weights.
* `Analyzer.wordFacets_perm`: the order of the words does not matter for the facets of a text.
* `Analyzer.exists_count`, `Analyzer.valid_profile`: every weight is a count, and accepted.
-/

namespace Concordance

open Binary64

variable {σ : Type} {language : Language}

/-! ## The facets, from the analyzer -/

namespace Analyzer

/-- The weighted words of a text, as facets of the aspect called `name`. -/
def wordFacets (a : Analyzer) (name text : String) : List (Facet × Float) :=
  formFacets name ((a.words text).map a.canonical)

/-- The weighted facets of a field. -/
def fieldFacets (a : Analyzer) (f : Field) : List (Facet × Float) :=
  match f.value with
  | none => []
  | some value =>
    match value, f.extractWords with
    | .text s, true => a.wordFacets f.aspectName s
    | value, _ => [(⟨⟨f.aspectName, value.kind⟩, value⟩, 1.0)]

/-- The weighted facets of a list of fields. -/
def facets (a : Analyzer) (fields : List Field) : List (Facet × Float) :=
  fields.flatMap a.fieldFacets

/-- The profile of a document. -/
def profile (a : Analyzer) (d : Document) : Profile := .ofList (numbered (a.facets d.fields))

end Analyzer

theorem uses_wordFacets (name text : String) : Uses language
    (wordFacets name text language : StateM (Registry σ) (List (Facet × Float)))
    fun a => a.wordFacets name text :=
  (uses_extract text).bind fun words => (Uses.mapM uses_canonical words).bind fun _ => .pure _

theorem uses_fieldFacets (f : Field) : Uses language
    (f.facets language : StateM (Registry σ) (List (Facet × Float))) fun a => a.fieldFacets f := by
  obtain ⟨name, extractWords, value⟩ := f
  cases value with
  | none => exact .pure []
  | some value =>
    cases value with
    | text s =>
      cases extractWords with
      | true => exact uses_wordFacets _ s
      | false => exact .pure _
    | integer | boolean => exact .pure _

/-- The profile of a document is a function of the analyzer that serves its language. -/
theorem uses_profile (d : Document) : Uses d.language
    (d.profile : StateM (Registry σ) Profile) fun a => a.profile d :=
  (Uses.flatMapM uses_fieldFacets d.fields).bind fun facets =>
    .pure (Profile.ofList (numbered facets))

/-- The profile that is built for a document in a registry. -/
def Registry.built (r : Registry σ) (d : Document) : Profile := (d.profile.run r).1

theorem Registry.built_eq (r : Registry σ) (d : Document) :
    r.built d = (r.serving d.language).profile d :=
  (uses_profile d).value_eq r

/-! ## Numbered components -/

theorem has_eq_false_of_pairwise {p : Profile} {c : Component} {rest : List Component}
    (distinct : (p.components ++ c :: rest).Pairwise fun a b => a.same b = false) :
    p.has c = false := by
  rw [List.pairwise_append] at distinct
  simp only [Profile.has, List.any_eq_false]
  intro other mem
  simp [distinct.2.2 other mem c List.mem_cons_self]

theorem foldl_insert_of_pairwise {p : Profile} {components : List Component}
    (distinct : (p.components ++ components).Pairwise fun a b => a.same b = false) :
    (components.foldl Profile.insert p).components = p.components ++ components := by
  induction components generalizing p with
  | nil => simp
  | cons c rest ih =>
    have inserted : (p.insert c).components = p.components ++ [c] := by
      rw [Profile.components_insert, has_eq_false_of_pairwise distinct]
      rfl
    rw [List.foldl_cons, ih, inserted, List.append_assoc]
    · rfl
    · rwa [inserted, List.append_assoc]

/-- The numbers go from zero upwards. -/
theorem tieBreaks_numbered (facets : List (Facet × Float)) :
    (numbered facets).map (·.tieBreak) = List.range facets.length := by
  rw [numbered, List.map_map, List.range_eq_range', ← List.zipIdx_map_snd 0 facets]
  rfl

theorem entries_numbered (facets : List (Facet × Float)) :
    (numbered facets).map (fun c => (c.facet, c.weight)) = facets := by
  rw [numbered, List.map_map]
  exact List.zipIdx_map_fst 0 facets

/-- Components with different numbers stand for different places. -/
theorem pairwise_numbered (facets : List (Facet × Float)) :
    (numbered facets).Pairwise fun a b => a.same b = false := by
  have numbers : ((numbered facets).map (·.tieBreak)).Nodup := by
    rw [tieBreaks_numbered]
    exact List.nodup_range
  refine (List.pairwise_map.mp numbers).imp fun {a b} apart => ?_
  simp [Component.same, apart]

/-- So all of them are kept. -/
theorem components_ofList_numbered (facets : List (Facet × Float)) :
    (Profile.ofList (numbered facets)).components = numbered facets :=
  foldl_insert_of_pairwise (p := .empty) (pairwise_numbered facets)

/-- The totals of a profile are those of its facets. -/
theorem weights_ofList_numbered (facets : List (Facet × Float)) :
    (Profile.ofList (numbered facets)).weights = .merge facets := by
  rw [Profile.weights, components_ofList_numbered, entries_numbered]

/-- A profile is valid if the weights of its facets are. -/
theorem valid_ofList_numbered_iff (facets : List (Facet × Float)) :
    (Profile.ofList (numbered facets)).Valid ↔ ∀ entry ∈ facets, validWeight entry.2 = true := by
  conv_rhs => rw [← entries_numbered facets]
  rw [Profile.Valid, components_ofList_numbered, List.forall_mem_map]

/-! ## What a field adds -/

namespace Analyzer

variable (a : Analyzer)

/-- A field adds nothing, or the words of its text, or its value as it is. -/
theorem fieldFacets_cases (f : Field) :
    (f.value = none ∧ a.fieldFacets f = []) ∨
      (∃ text, f.value = some (.text text) ∧ f.extractWords = true ∧
        a.fieldFacets f = a.wordFacets f.aspectName text) ∨
      ∃ value, f.value = some value ∧ (f.extractWords = true → value.kind ≠ .text) ∧
        a.fieldFacets f = [(⟨⟨f.aspectName, value.kind⟩, value⟩, 1.0)] := by
  obtain ⟨name, extractWords, value⟩ := f
  cases value with
  | none => exact .inl ⟨rfl, rfl⟩
  | some value =>
    cases value with
    | text s =>
      cases extractWords with
      | true => exact .inr (.inl ⟨s, rfl, rfl, rfl⟩)
      | false => exact .inr (.inr ⟨_, rfl, nofun, rfl⟩)
    | integer | boolean => exact .inr (.inr ⟨_, rfl, fun _ => nofun, rfl⟩)

variable {a} {f : Field} {entry : Facet × Float}

/-- The facets of a field belong to its aspect. -/
theorem aspectName_of_mem (mem : entry ∈ a.fieldFacets f) :
    entry.1.aspect.name = f.aspectName := by
  rcases a.fieldFacets_cases f with ⟨-, none⟩ | ⟨text, -, -, words⟩ | ⟨value, -, -, whole⟩
  · rw [none] at mem
    cases mem
  · rw [words] at mem
    obtain ⟨form, -, rfl⟩ := mem_formFacets.mp mem
    rfl
  · rw [whole, List.mem_singleton] at mem
    rw [mem]

/-- A field gives no facet two weights. -/
theorem eq_of_mem_fieldFacets {facet : Facet} {w w' : Float} (mem : (facet, w) ∈ a.fieldFacets f)
    (mem' : (facet, w') ∈ a.fieldFacets f) : w = w' := by
  rcases a.fieldFacets_cases f with ⟨-, none⟩ | ⟨text, -, -, words⟩ | ⟨value, -, -, whole⟩
  · rw [none] at mem
    cases mem
  · rw [words] at mem mem'
    obtain ⟨form, -, own⟩ := mem_formFacets.mp mem
    obtain ⟨form', -, own'⟩ := mem_formFacets.mp mem'
    obtain ⟨rfl, rfl⟩ := Prod.mk.inj own
    obtain ⟨same, rfl⟩ := Prod.mk.inj own'
    rw [(Facet.ofWord_inj.mp same).2]
  · rw [whole, List.mem_singleton] at mem mem'
    exact congrArg Prod.snd (mem.trans mem'.symm)

/-- Nor do fields of different names. -/
theorem eq_of_mem_facets {fields : List Field} (names : (fields.map Field.aspectName).Nodup)
    (facet : Facet) (w w' : Float) (mem : (facet, w) ∈ a.facets fields)
    (mem' : (facet, w') ∈ a.facets fields) : w = w' := by
  obtain ⟨f, field, own⟩ := List.mem_flatMap.mp mem
  obtain ⟨f', field', own'⟩ := List.mem_flatMap.mp mem'
  have name : facet.aspect.name = f.aspectName := aspectName_of_mem own
  have name' : facet.aspect.name = f'.aspectName := aspectName_of_mem own'
  rw [← List.inj_on_of_nodup_map names field field' (name.symm.trans name')] at own'
  exact eq_of_mem_fieldFacets own own'

theorem mem_facets_profile {d : Document} {facet : Facet} :
    facet ∈ (a.profile d).weights.facets ↔ ∃ entry ∈ a.facets d.fields, entry.1 = facet := by
  rw [profile, weights_ofList_numbered, Weights.mem_facets_merge]

/-! ## The order of the words -/

theorem wordFacets_perm {text text' : String} (h : (a.words text).Perm (a.words text'))
    (name : String) : (a.wordFacets name text).Perm (a.wordFacets name text') :=
  formFacets_perm (h.map a.canonical)

theorem facets_perm {fields fields' : List Field}
    (h : List.Forall₂ (fun f f' => (a.fieldFacets f).Perm (a.fieldFacets f')) fields fields') :
    (a.facets fields).Perm (a.facets fields') := by
  induction h with
  | nil => exact .refl _
  | cons here _ ih => exact here.append ih

/-! ## Weights of facets -/

theorem one_eq_ofNat : (1.0 : Float) = Float.ofNat 1 := by decide +kernel

/-- Every weight is a count below `2 ^ 32`: one, or that of words with one form, modulo
`2 ^ 32`. -/
theorem exists_count (mem : entry ∈ a.fieldFacets f) :
    ∃ n < 2 ^ 32, entry.2 = Float.ofNat n ∧ (n = 1 ∨ ∃ text, f.value = some (.text text) ∧
      f.extractWords = true ∧ ∃ form ∈ (a.words text).map a.canonical,
        n = ((a.words text).map a.canonical).count form % 2 ^ 32) := by
  rcases a.fieldFacets_cases f with ⟨-, none⟩ | ⟨text, value, apart, words⟩ | ⟨value, -, -, whole⟩
  · rw [none] at mem
    cases mem
  · rw [words] at mem
    obtain ⟨form, occurs, rfl⟩ := mem_formFacets.mp mem
    exact ⟨_, Nat.mod_lt _ (by decide), rfl, .inr ⟨text, value, apart, form, occurs, rfl⟩⟩
  · rw [whole, List.mem_singleton] at mem
    rw [mem]
    exact ⟨1, by decide, one_eq_ofNat, .inl rfl⟩

variable (a)

/-- The weights of a document are accepted. -/
theorem valid_profile (d : Document) : (a.profile d).Valid := by
  rw [profile, valid_ofList_numbered_iff]
  intro entry mem
  obtain ⟨f, -, own⟩ := List.mem_flatMap.mp mem
  obtain ⟨n, lt, count, -⟩ := exists_count own
  have le : n ≤ 2 ^ 1023 := lt.le.trans (pow_le_pow_right₀ one_le_two (by decide))
  rw [count]
  exact validWeight_iff.mpr ⟨isFinite_ofNat le, (unsigned_ofNat n).nonneg⟩

end Analyzer

end Concordance
