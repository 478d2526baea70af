import Concordance.Proofs.Binary64.ExactSums
import Concordance.Proofs.Counting
import Concordance.Proofs.Document.Contributions
import Concordance.Proofs.Profile.Counted
import Concordance.Proofs.Profile.CosineLaw

/-!
# Frequencies of words

The words of a document are counted in two steps: those of one text by their forms, when the field
contributes, and those of texts with the same name when the weights of a facet are added up. What
comes out is the number of words with a form in all the texts of a name. No word is counted twice
and none is left out.

* `Registry.frequency`: how many words with a form there are in the texts of a name.
* `occurrences_formFacets`: what the words of a text add to the facet of a form.
* `Registry.exists_counts`: what fields add to it, if no counter comes back to zero.
* `Registry.wordByWord`, `Registry.count_wordByWord`: the facets of all words, place by place.
* `Indexer.weights_count_words`: the weights are the frequencies, and add up to all words.
-/

namespace Concordance

open Binary64

variable {σ : Type}

/-- The facets of some forms, counted by the forms. -/
theorem Facet.count_map_ofWord (name name' form : String) (forms : List String) :
    (forms.map (ofWord name')).count (ofWord name form) =
      if name' = name then forms.count form else 0 := by
  split
  · next same =>
    have injective : Function.Injective (ofWord name) := fun _ _ same => (ofWord_inj.mp same).2
    rw [same, List.count_map_of_injective _ _ injective]
  · next other =>
    refine List.count_eq_zero_of_not_mem fun mem => other ?_
    obtain ⟨form', -, same⟩ := List.mem_map.mp mem
    exact (ofWord_inj.mp same).1

/-! ## Words of fields -/

namespace Registry

variable (r : Registry σ) (language : Language)

/-- The words of a field: those of its text, if that is taken apart. -/
def fieldWords (f : Field) : List String :=
  match f.value, f.extractWords with
  | some (.text text), true => r.words language text
  | _, _ => []

/-- The forms that stand for the words of a field, in order and with repetitions. -/
def fieldForms (f : Field) : List String := (r.fieldWords language f).map (r.form language)

/-- The words with a form, in all the texts of the fields that go by a name. -/
def occurring (name form : String) (fields : List Field) : ℕ :=
  ((fields.filter (·.aspectName = name)).flatMap (r.fieldWords language)).countP
    (r.form language · = form)

/-- In how many places of the texts of a name there is a word with a form. -/
def frequency (d : Document) (name form : String) : ℕ :=
  r.occurring d.language name form d.fields

variable {r language} {name form : String} {f : Field} {fields : List Field}

theorem count_fieldForms : (r.fieldForms language f).count form =
    (r.fieldWords language f).countP (r.form language · = form) := by
  rw [fieldForms, List.count_eq_countP, List.countP_map]
  exact List.countP_congr fun word _ => by simp

theorem occurring_cons : r.occurring language name form (f :: fields) =
    (if f.aspectName = name then (r.fieldForms language f).count form else 0) +
      r.occurring language name form fields := by
  unfold occurring
  by_cases same : f.aspectName = name <;> simp [same, count_fieldForms]

/-- No field has more words with a form than all fields of its name. -/
theorem count_fieldForms_le_occurring (mem : f ∈ fields) (same : f.aspectName = name) :
    (r.fieldForms language f).count form ≤ r.occurring language name form fields := by
  induction fields with
  | nil => cases mem
  | cons g rest ih =>
    rw [occurring_cons]
    rcases List.mem_cons.mp mem with rfl | later
    · rw [if_pos same]
      exact Nat.le_add_right _ _
    · exact (ih later).trans (Nat.le_add_left _ _)

theorem count_fieldForms_lt {d : Document} (below : (r.serving d.language).CountsBelow d)
    (mem : f ∈ d.fields) (form : String) : (r.fieldForms d.language f).count form < 2 ^ 32 := by
  rw [fieldForms, fieldWords]
  split
  · next text value apart =>
    rw [words_eq, form_eq]
    exact below f mem text value apart form
  · exact Nat.two_pow_pos 32

end Registry

/-! ## What fields add to the facet of a form -/

/-- The words of a text add the counter of a form, as often as this is listed. -/
theorem occurrences_formFacets (name name' form : String) (forms : List String) :
    Weights.occurrences (formFacets name' forms) (.ofWord name form) =
      if name' = name then List.replicate (Tally.listings (forms.count form))
        (Float.ofNat (forms.count form % 2 ^ 32))
      else [] := by
  split
  · next same =>
    have own : (Tally.of forms).order.filter (fun form' => decide
        (Facet.ofWord name' form' = .ofWord name form)) =
          List.replicate (Tally.listings (forms.count form)) form := by
      simp only [Facet.ofWord_inj, same, true_and, List.filter_eq, Tally.count_order_of]
    rw [Weights.occurrences, formFacets_def, List.filter_map]
    simp only [Function.comp_def]
    rw [own, List.map_map, List.map_replicate]
    rfl
  · next other =>
    refine Weights.occurrences_eq_nil_iff.mpr fun entry mem same => other ?_
    obtain ⟨form', -, rfl⟩ := mem_formFacets.mp mem
    exact (Facet.ofWord_inj.mp same).1

namespace Registry

/-- A field adds the forms of its words, or it has no words and adds none. -/
theorem words_or_none (r : Registry σ) (language : Language) (f : Field) :
    (r.serving language).fieldFacets f = formFacets f.aspectName (r.fieldForms language f) ∨
      r.fieldWords language f = [] ∧
        ∀ entry ∈ (r.serving language).fieldFacets f, entry.1.aspect.kind ≠ .word := by
  rcases (r.serving language).fieldFacets_cases f with ⟨absent, none⟩ |
    ⟨text, value, apart, words⟩ | ⟨value, present, kept, whole⟩
  · right
    rw [none, fieldWords, absent]
    exact ⟨rfl, List.forall_mem_nil _⟩
  · left
    rw [words, Analyzer.wordFacets, fieldForms, fieldWords, value, apart, form_eq]
    simp only [words_eq]
  · right
    rw [whole, fieldWords, present]
    constructor
    · cases value with
      | text s =>
        have off : f.extractWords = false := by
          rw [← Bool.not_eq_true]
          exact fun apart => kept apart rfl
        rw [off]
      | integer | boolean => rfl
    · rw [List.forall_mem_singleton]
      cases value <;> simp [FacetValue.kind]

variable {r : Registry σ} {language : Language} {name form : String}

/-- A field adds the number of its words with a form once, if there are any. -/
theorem exists_counts_field {f : Field}
    (few : f.aspectName = name → (r.fieldForms language f).count form < 2 ^ 32) :
    ∃ ns : List ℕ, Weights.occurrences ((r.serving language).fieldFacets f) (.ofWord name form) =
        ns.map Float.ofNat ∧ (∀ n ∈ ns, 0 < n) ∧
      ns.sum = if f.aspectName = name then (r.fieldForms language f).count form else 0 := by
  rcases r.words_or_none language f with words | ⟨none, others⟩
  · rw [words, occurrences_formFacets]
    by_cases same : f.aspectName = name
    · rw [if_pos same, if_pos same, Nat.mod_eq_of_lt (few same)]
      rcases Nat.eq_zero_or_pos ((r.fieldForms language f).count form) with zero | pos
      · rw [zero, Tally.listings_zero]
        exact ⟨[], rfl, List.forall_mem_nil _, rfl⟩
      · rw [Tally.listings_eq_one pos (few same).le]
        exact ⟨[_], rfl, List.forall_mem_singleton.mpr pos, List.sum_singleton⟩
    · rw [if_neg same, if_neg same]
      exact ⟨[], rfl, List.forall_mem_nil _, rfl⟩
  · refine ⟨[], ?_, List.forall_mem_nil _, ?_⟩
    · refine Weights.occurrences_eq_nil_iff.mpr fun entry mem same => others entry mem ?_
      rw [same]
      rfl
    · rw [fieldForms, none]
      simp

/-- What fields add to the facet of a form are positive counts of its words, and these make up all
of them. -/
theorem exists_counts {fields : List Field}
    (few : ∀ f ∈ fields, f.aspectName = name → (r.fieldForms language f).count form < 2 ^ 32) :
    ∃ ns : List ℕ, Weights.occurrences ((r.serving language).facets fields) (.ofWord name form) =
      ns.map Float.ofNat ∧ (∀ n ∈ ns, 0 < n) ∧ ns.sum = r.occurring language name form fields := by
  induction fields with
  | nil => exact ⟨[], rfl, List.forall_mem_nil _, rfl⟩
  | cons f rest ih =>
    obtain ⟨first, others⟩ := List.forall_mem_cons.mp few
    obtain ⟨here, own, positive, sum⟩ := exists_counts_field first
    obtain ⟨later, added, positive', sum'⟩ := ih others
    refine ⟨here ++ later, ?_, List.forall_mem_append.mpr ⟨positive, positive'⟩, ?_⟩
    · rw [Analyzer.facets, List.flatMap_cons, Weights.occurrences_append, own, List.map_append,
        ← added]
      rfl
    · rw [List.sum_append, sum, sum', occurring_cons]

/-- The facets of words that fields add are those of forms. -/
theorem exists_ofWord_of_mem {fields : List Field} {entry : Facet × Float}
    (mem : entry ∈ (r.serving language).facets fields) (word : entry.1.aspect.kind = .word) :
    ∃ name form, entry.1 = .ofWord name form := by
  obtain ⟨f, -, own⟩ := List.mem_flatMap.mp mem
  rcases r.words_or_none language f with words | ⟨-, others⟩
  · rw [words] at own
    obtain ⟨form, -, rfl⟩ := mem_formFacets.mp own
    exact ⟨_, form, rfl⟩
  · exact absurd word (others entry own)

end Registry

/-! ## Word by word -/

namespace Registry

/-- The facets of the words of some fields, one for each place. -/
def wordByWord (r : Registry σ) (language : Language) (fields : List Field) : List Facet :=
  fields.flatMap fun f => (r.fieldForms language f).map (Facet.ofWord f.aspectName)

variable {r : Registry σ} {language : Language}

theorem count_wordByWord (name form : String) (fields : List Field) :
    (r.wordByWord language fields).count (.ofWord name form) =
      r.occurring language name form fields := by
  induction fields with
  | nil => rfl
  | cons f rest ih =>
    rw [occurring_cons, ← ih, ← Facet.count_map_ofWord, ← List.count_append]
    rfl

theorem length_wordByWord (fields : List Field) : (r.wordByWord language fields).length =
    (fields.flatMap (r.fieldWords language)).length := by
  simp [wordByWord, fieldForms, List.length_flatMap]

/-- A form occurs at most as often as there are words. -/
theorem frequency_le (d : Document) (name form : String) :
    r.frequency d name form ≤ (d.fields.flatMap (r.fieldWords d.language)).length := by
  rw [frequency, ← count_wordByWord, ← length_wordByWord]
  exact List.count_le_length

theorem exists_of_mem_wordByWord {fields : List Field} {k : Facet}
    (mem : k ∈ r.wordByWord language fields) : ∃ name form, k = .ofWord name form := by
  obtain ⟨f, -, own⟩ := List.mem_flatMap.mp mem
  obtain ⟨form, -, rfl⟩ := List.mem_map.mp own
  exact ⟨_, form, rfl⟩

end Registry

/-! ## Weights -/

namespace Indexer

variable (s : Indexer σ) (d : Document)

theorem weights_built : (s.built d).weights =
    .merge ((s.registry.serving d.language).facets d.fields) := by
  rw [built_eq, Analyzer.profile, weights_ofList_numbered]

/-- The weight of a form is its frequency, as far as that is counted exactly. -/
theorem get?_weights_ofWord (name form : String)
    (below : ∀ f ∈ d.fields, f.aspectName = name →
      (s.registry.fieldForms d.language f).count form < 2 ^ 32)
    (few : s.registry.frequency d name form ≤ 2 ^ 53) :
    (s.built d).weights.get? (.ofWord name form) =
      if s.registry.frequency d name form = 0 then none
      else some (Float.ofNat (s.registry.frequency d name form)) := by
  obtain ⟨ns, occurrences, positive, sum⟩ := Registry.exists_counts below
  rw [Registry.frequency, ← sum] at few ⊢
  have none : ns.map Float.ofNat = [] ↔ ns.sum = 0 := by
    rw [List.map_eq_nil_iff, List.sum_eq_zero_iff]
    refine ⟨fun empty => by simp [empty], fun zeros => ?_⟩
    exact List.eq_nil_iff_forall_not_mem.mpr fun n mem => (positive n mem).ne' (zeros n mem)
  rw [weights_built, Weights.get?_merge, occurrences, zero_foldl_ofNat few]
  simp only [none]

/-- No counter comes back to zero if there are fewer than `2 ^ 32` words in all. -/
theorem get?_weights_of_few {name form : String} (few : s.registry.frequency d name form < 2 ^ 32) :
    (s.built d).weights.get? (.ofWord name form) =
      if s.registry.frequency d name form = 0 then none
      else some (Float.ofNat (s.registry.frequency d name form)) := by
  refine s.get?_weights_ofWord d name form (fun f mem same => ?_) (few.le.trans (by decide))
  exact (Registry.count_fieldForms_le_occurring mem same).trans_lt few

/-- A facet of words is one of a form. -/
theorem exists_ofWord_of_mem_weights {entry : Facet × Float} (mem : entry ∈ (s.built d).weights)
    (word : entry.1.aspect.kind = .word) : ∃ name form, entry.1 = .ofWord name form := by
  rw [weights_built] at mem
  obtain ⟨part, contributed, same⟩ :=
    Weights.mem_facets_merge.mp (List.mem_map_of_mem mem)
  rw [← same] at word ⊢
  exact Registry.exists_ofWord_of_mem contributed word

variable {s d} (below : (s.registry.serving d.language).CountsBelow d)
  (few : ∀ name form, s.registry.frequency d name form ≤ 2 ^ 53)

include below few

theorem get?_weights_of_countsBelow (name form : String) :
    (s.built d).weights.get? (.ofWord name form) =
      if s.registry.frequency d name form = 0 then none
      else some (Float.ofNat (s.registry.frequency d name form)) :=
  s.get?_weights_ofWord d name form
    (fun _ mem _ => Registry.count_fieldForms_lt below mem form) (few name form)

/-- Weights of words are exact, and they count the facets that stand for the words one by one. -/
theorem exact_weight_of_word {entry : Facet × Float} (mem : entry ∈ (s.built d).weights)
    (word : entry.1.aspect.kind = .word) :
    exact entry.2 = ((s.registry.wordByWord d.language d.fields).count entry.1 : ℕ) := by
  obtain ⟨name, form, same⟩ := s.exists_ofWord_of_mem_weights d mem word
  have found : (s.built d).weights.get? entry.1 = some entry.2 :=
    (Weights.get?_eq_some_iff (s.built d).distinct_weights).mpr mem
  rw [same, get?_weights_of_countsBelow below few] at found
  rw [same, Registry.count_wordByWord]
  split at found
  · cases found
  · rw [← Option.some.inj found]
    exact exact_natCast (few name form)

/-- Every facet that stands for a word has a weight. -/
theorem mem_weights_of_mem_wordByWord {k : Facet}
    (mem : k ∈ s.registry.wordByWord d.language d.fields) :
    k.aspect.kind = .word ∧ ∃ w, (k, w) ∈ (s.built d).weights := by
  obtain ⟨name, form, rfl⟩ := Registry.exists_of_mem_wordByWord mem
  rw [← List.count_pos_iff, Registry.count_wordByWord] at mem
  have found := get?_weights_of_countsBelow below few name form
  rw [if_neg (show s.registry.frequency d name form ≠ 0 from mem.ne')] at found
  exact ⟨rfl, _, (Weights.get?_eq_some_iff (s.built d).distinct_weights).mp found⟩

omit below few in
/-- The weight of a form is its frequency: the number of all words with this form in the texts of a
name. Forms that no word has are left out, and so the weights of all forms add up to the number of
words. The words of one text are counted in 32 bits, and those of several texts in binary64, which
is exact up to `2 ^ 53`. -/
theorem weights_count_words (s : Indexer σ) (d : Document)
    (below : (s.registry.serving d.language).CountsBelow d)
    (few : ∀ name form, s.registry.frequency d name form ≤ 2 ^ 53) :
    (∀ name form, (s.built d).weights.get? (.ofWord name form) =
      if s.registry.frequency d name form = 0 then none
      else some (Float.ofNat (s.registry.frequency d name form))) ∧
    (((s.built d).weights.filter (·.1.aspect.kind = .word)).map (exact ·.2)).sum =
      (d.fields.flatMap (s.registry.fieldWords d.language)).length := by
  refine ⟨get?_weights_of_countsBelow below few, ?_⟩
  let entries := (s.built d).weights.filter (·.1.aspect.kind = .word)
  have weights : entries.map (exact ·.2) =
      (entries.map fun entry => (s.registry.wordByWord d.language d.fields).count entry.1).map
        (Nat.cast : ℕ → ℚ≥0) := by
    rw [List.map_map]
    refine List.map_congr_left fun entry mem => ?_
    obtain ⟨weighed, word⟩ := List.mem_filter.mp mem
    exact exact_weight_of_word below few weighed (of_decide_eq_true word)
  have nodup : (entries.map (·.1)).Nodup :=
    (s.built d).distinct_weights.sublist (List.filter_sublist.map _)
  have within : ∀ k ∈ s.registry.wordByWord d.language d.fields, k ∈ entries.map (·.1) := by
    intro k mem
    obtain ⟨word, w, weighed⟩ := mem_weights_of_mem_wordByWord below few mem
    exact List.mem_map.mpr ⟨(k, w), List.mem_filter.mpr ⟨weighed, decide_eq_true word⟩, rfl⟩
  have counts := sum_count_of_nodup nodup within
  rw [List.map_map, Registry.length_wordByWord] at counts
  rw [weights, ← Nat.cast_list_sum, ← counts]
  rfl

end Indexer

theorem Indexer.weights_count_words_twoVerses :
    let s := Indexer.new Registry.builtin
    (s.registry.serving .en).CountsBelow .twoVerses ∧
      (∀ name form, s.registry.frequency .twoVerses name form ≤ 2 ^ 53) ∧
      (s.built .twoVerses).weights.get? (.ofWord "verse" "lamp") = some (Float.ofNat 3) ∧
      (((s.built .twoVerses).weights.filter (·.1.aspect.kind = .word)).map (exact ·.2)).sum = 8 := by
  intro s
  have words : (Document.twoVerses.fields.flatMap (s.registry.fieldWords .en)).length = 8 := by
    decide +kernel
  have lamps : s.registry.frequency .twoVerses "verse" "lamp" = 3 := by decide +kernel
  have few : ∀ name form, s.registry.frequency .twoVerses name form ≤ 2 ^ 53 := fun name form => by
    calc s.registry.frequency .twoVerses name form ≤ _ :=
        s.registry.frequency_le .twoVerses name form
      _ = 8 := words
      _ ≤ 2 ^ 53 := by decide
  have below := Document.countsBelow_twoVerses (s.registry.serving .en)
  obtain ⟨weights, sum⟩ := s.weights_count_words .twoVerses below few
  refine ⟨below, few, ?_, sum.trans (congrArg Nat.cast words)⟩
  rw [weights, lamps]
  rfl

end Concordance
