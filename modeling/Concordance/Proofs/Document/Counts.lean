import Concordance.Proofs.Document.Facets
import Concordance.Proofs.Profile.Counted

/-!
# Documents with countable words

The weights of a document count its words. Where no form stands for `2 ^ 32` words of a text
or more, all of them are whole numbers from one on below this bound, whatever the analyzer
and whatever the fields.

* `Analyzer.CountsBelow`, `Registry.CountsBelow`: the bound, for one document and for several
  ones that are built one after the other.
* `Analyzer.countsBelow_of_short`: short texts are within it.
* `Analyzer.counted_profile`, `Registry.CountsBelow.counted`: then the profiles are counted.
-/

namespace Concordance

variable {σ : Type}

/-- In each text of the document that is taken apart, each form stands for fewer than `2 ^ 32`
words. -/
def Analyzer.CountsBelow (a : Analyzer) (d : Document) : Prop :=
  ∀ f ∈ d.fields, ∀ text, f.value = some (.text text) → f.extractWords = true →
    ∀ form, ((a.words text).map a.canonical).count form < 2 ^ 32

/-- A text without `2 ^ 31` characters has countable words. -/
theorem Analyzer.countsBelow_of_short (a : Analyzer) {d : Document}
    (short : ∀ f ∈ d.fields, ∀ text, f.value = some (.text text) → f.extractWords = true →
      text.length + 1 < 2 ^ 31) : a.CountsBelow d := by
  intro f field text value extracted form
  have few := short f field text value extracted
  calc ((a.words text).map a.canonical).count form ≤ ((a.words text).map a.canonical).length :=
        List.count_le_length
    _ = (a.words text).length := List.length_map _
    _ ≤ 2 * text.length + 1 := a.length_words_le text
    _ < 2 ^ 32 := by omega

/-- The weights of such a document are counts. -/
theorem Analyzer.counted_profile (a : Analyzer) {d : Document} (h : a.CountsBelow d) :
    (a.profile d).Counted := by
  have weights : ∀ entry ∈ a.facets d.fields, IsCount entry.2 := by
    intro entry mem
    obtain ⟨f, field, own⟩ := List.mem_flatMap.mp mem
    obtain ⟨n, lt, count, bound⟩ := exists_count own
    refine ⟨n, ?_, lt, count⟩
    rcases bound with rfl | ⟨text, value, extracted, form, occurs, rfl⟩
    · exact one_pos
    · rw [Nat.mod_eq_of_lt (h f field text value extracted form)]
      exact List.count_pos_iff.mpr occurs
  intro c mem
  rw [profile, components_ofList_numbered] at mem
  have own : (c.facet, c.weight) ∈ a.facets d.fields := by
    rw [← entries_numbered (a.facets d.fields)]
    exact List.mem_map.mpr ⟨c, mem, rfl⟩
  exact weights _ own

namespace Registry

/-- The documents are built one after the other, and each has countable words for the analyzer
that serves its language by then. -/
def CountsBelow (r : Registry σ) : List Document → Prop
  | [] => True
  | d :: rest => (r.serving d.language).CountsBelow d ∧ CountsBelow (d.profile.run r).2 rest

theorem CountsBelow.counted {r : Registry σ} {d : Document} {rest : List Document}
    (h : r.CountsBelow (d :: rest)) : (r.built d).Counted := by
  rw [built_eq]
  exact Analyzer.counted_profile _ h.1

end Registry

end Concordance
