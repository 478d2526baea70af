import Concordance.Proofs.Document.Frequencies

/-!
# Texts that are joined

Between two texts with a space in between nothing happens: the words of the whole are those of
both parts. So what is counted in a document is counted in each of the parts, and its weights are
added up, unless other texts of the same name are counted with each part, or a counter comes back
to zero.

* `Registry.frequency_withText`: what one text of a document counts for, if it is the only one of
  its name.
* `Indexer.weights_join`: the words, and the weights of a document.
* `Indexer.weights_not_joined`: other texts of its name, and too many words.
-/

namespace Concordance

open Binary64

variable {σ : Type}

/-- The document with one more text that is taken apart, after some fields and before some others. -/
def Document.withText (d : Document) (name : String) (later : List Field) (text : String) :
    Document :=
  { d with fields := d.fields ++ ⟨name, true, some (.text text)⟩ :: later }

namespace Registry

variable {r : Registry σ} {language : Language} {name : String}

/-- A field that adds no words to a profile has none. -/
theorem fieldWords_eq_nil {f : Field} (h : f.kind? ≠ some .word) : r.fieldWords language f = [] := by
  obtain ⟨name, extractWords, value⟩ := f
  cases value with
  | none => rfl
  | some value =>
    cases value with
    | text s =>
      cases extractWords with
      | true => exact absurd rfl h
      | false => rfl
    | integer | boolean => rfl

theorem occurring_append (name form : String) (fields later : List Field) :
    r.occurring language name form (fields ++ later) =
      r.occurring language name form fields + r.occurring language name form later := by
  simp [occurring]

/-- Where no field with words goes by a name, no word is found under it. -/
theorem occurring_eq_zero {fields : List Field}
    (others : ∀ f ∈ fields, f.kind? = some .word → f.aspectName ≠ name) (form : String) :
    r.occurring language name form fields = 0 := by
  refine List.countP_eq_zero.mpr fun word mem => ?_
  obtain ⟨f, own, held⟩ := List.mem_flatMap.mp mem
  obtain ⟨field, same⟩ := List.mem_filter.mp own
  rw [fieldWords_eq_nil fun words => others f field words (of_decide_eq_true same)] at held
  cases held

/-- Where no other field with words goes by a name, the frequencies are those of the text. -/
theorem frequency_withText {d : Document} {later : List Field}
    (others : ∀ f ∈ d.fields ++ later, f.kind? = some .word → f.aspectName ≠ name)
    (form field text : String) : r.frequency (d.withText field later text) name form =
      if Field.aspectName ⟨field, true, none⟩ = name then (r.forms d.language text).count form
      else 0 := by
  obtain ⟨before, after⟩ := List.forall_mem_append.mp others
  have forms : r.fieldForms d.language ⟨field, true, some (.text text)⟩ = r.forms d.language text :=
    rfl
  show r.occurring d.language name form (d.fields ++ _ :: later) = _
  rw [occurring_append, occurring_cons, occurring_eq_zero before, occurring_eq_zero after, forms,
    Nat.zero_add, Nat.add_zero]
  rfl

/-- So those of joined texts are added up. -/
theorem frequency_join {d : Document} {later : List Field}
    (others : ∀ f ∈ d.fields ++ later, f.kind? = some .word → f.aspectName ≠ name)
    (form field left right : String) :
    r.frequency (d.withText field later (left ++ " " ++ right)) name form =
      r.frequency (d.withText field later left) name form +
        r.frequency (d.withText field later right) name form := by
  simp only [frequency_withText others, forms_join, List.count_append, ite_add_zero]

end Registry

/-- Counts, with zero left out, are added like numbers. -/
theorem merge_ofNat {m n : ℕ} (le : m + n ≤ 2 ^ 53) :
    Option.merge (· + ·) (if m = 0 then none else some (Float.ofNat m))
        (if n = 0 then none else some (Float.ofNat n)) =
      if m + n = 0 then none else some (Float.ofNat (m + n)) := by
  rcases Nat.eq_zero_or_pos m with rfl | pos
  · rcases Nat.eq_zero_or_pos n with rfl | pos'
    · rfl
    · simp [pos'.ne']
  · rcases Nat.eq_zero_or_pos n with rfl | pos'
    · simp [pos.ne']
    · simp [pos.ne', pos'.ne', ofNat_add_ofNat le]

/-- The words of two texts with a space between them are those of the one and those of the other. So
the words of a document with a form add up when one of its texts is joined from two. The weights add
up with them for each name that no other field with words goes by, as long as there are fewer than
`2 ^ 32` words with the form. Such a form has one component at most, whatever its number. -/
theorem Indexer.weights_join (s : Indexer σ) (language : Language) (left right : String) :
    s.registry.words language (left ++ " " ++ right) =
        s.registry.words language left ++ s.registry.words language right ∧
      ∀ (d : Document) (field : String) (later : List Field) (name : String),
        (∀ f ∈ d.fields ++ later, f.kind? = some .word → f.aspectName ≠ name) →
          ∀ form,
            let whole := d.withText field later (left ++ " " ++ right)
            let first := d.withText field later left
            let second := d.withText field later right
            s.registry.frequency whole name form =
                s.registry.frequency first name form + s.registry.frequency second name form ∧
              (s.registry.frequency whole name form < 2 ^ 32 →
                (s.built whole).weights.get? (.ofWord name form) =
                  Option.merge (· + ·) ((s.built first).weights.get? (.ofWord name form))
                    ((s.built second).weights.get? (.ofWord name form))) := by
  refine ⟨s.registry.words_join language left right, fun d field later name others form => ?_⟩
  have joined := s.registry.frequency_join others form field left right
  refine ⟨joined, fun few => ?_⟩
  rw [s.get?_weights_of_few _ few]
  rw [joined] at few ⊢
  rw [s.get?_weights_of_few _ ((Nat.le_add_right _ _).trans_lt few),
    s.get?_weights_of_few _ ((Nat.le_add_left _ _).trans_lt few),
    merge_ofNat (few.le.trans (by decide))]

/-- A document without words: what it says of its author is not taken apart. -/
def Document.signed : Document := ⟨7, .en, [⟨"author", false, some (.text "Ann Lamp")⟩]⟩

theorem Indexer.weights_join_signed :
    let s := Indexer.new Registry.builtin
    let verse (text : String) := Document.signed.withText "verse" [] text
    (∀ f ∈ Document.signed.fields ++ [], f.kind? = some .word → f.aspectName ≠ "verse") ∧
      s.registry.frequency (verse ("The lamps, the lamp" ++ " " ++ "a lamp at night")) "verse" "lamp" <
        2 ^ 32 ∧
      (s.built (verse ("The lamps, the lamp" ++ " " ++ "a lamp at night"))).weights.get?
        (.ofWord "verse" "lamp") = some (Float.ofNat 3) := by
  intro s verse
  have others : ∀ f ∈ Document.signed.fields ++ [],
      f.kind? = some .word → f.aspectName ≠ "verse" := by decide
  have left : s.registry.frequency (verse "The lamps, the lamp") "verse" "lamp" = 2 := by
    decide +kernel
  have right : s.registry.frequency (verse "a lamp at night") "verse" "lamp" = 1 := by
    decide +kernel
  have few : s.registry.frequency (verse ("The lamps, the lamp" ++ " " ++ "a lamp at night"))
      "verse" "lamp" < 2 ^ 32 := by
    rw [Registry.frequency_join others, left, right]
    decide
  refine ⟨others, few, ?_⟩
  rw [((s.weights_join .en "The lamps, the lamp" "a lamp at night").2 _ _ _ _ others _).2 few,
    s.get?_weights_of_few (verse _) (by rw [left]; decide),
    s.get?_weights_of_few (verse _) (by rw [right]; decide), left, right]
  exact merge_ofNat (m := 2) (n := 1) (by decide)

/-! ## Weights that do not add up -/

theorem ofNat_ne_ofNat {m n : ℕ} (hm : m ≤ 2 ^ 53) (hn : n ≤ 2 ^ 53) (ne : m ≠ n) :
    Float.ofNat m ≠ Float.ofNat n := by
  intro same
  have values := congrArg exact same
  rw [exact_natCast hm, exact_natCast hn] at values
  exact ne (Nat.cast_injective values)

/-- A counter is the weight of its form, also where it is at zero again. -/
theorem Indexer.get?_weights_verse (s : Indexer σ) {text form : String} {n : ℕ}
    (forms : s.registry.forms .en text = List.replicate n form) (pos : 0 < n) (le : n ≤ 2 ^ 32) :
    (s.built (.verse text)).weights.get? (.ofWord "verse" form) =
      some (Float.ofNat (n % 2 ^ 32)) := by
  have counter : ([n % 2 ^ 32].map Float.ofNat).foldl (· + ·) 0 = Float.ofNat (n % 2 ^ 32) := by
    refine (zero_foldl_ofNat ?_).trans (congrArg _ List.sum_singleton)
    rw [List.sum_singleton]
    exact (Nat.mod_le _ _).trans (le.trans (by decide))
  rw [Profile.weights, entries_verse, Weights.get?_merge, occurrences_formFacets, if_pos rfl, forms,
    List.count_replicate_self, Tally.listings_eq_one pos le]
  exact congrArg some counter

/-- Each half of `2 ^ 32` words has its weight, and all of them together have none. And a word of
another text is counted once with the joined text, but once more with each of the parts. -/
theorem Indexer.weights_not_joined :
    let s := Indexer.new Registry.builtin
    let half := again "lamp" (2 ^ 31)
    let titled (text : String) := (Document.verse "night").withText "title" [] text
    (s.built (.verse (half ++ " " ++ half))).weights.get? (.ofWord "verse" "lamp") ≠
        Option.merge (· + ·) ((s.built (.verse half)).weights.get? (.ofWord "verse" "lamp"))
          ((s.built (.verse half)).weights.get? (.ofWord "verse" "lamp")) ∧
      (s.built (titled ("red" ++ " " ++ "lamp"))).weights.get? (.ofWord "verse" "night") ≠
        Option.merge (· + ·) ((s.built (titled "red")).weights.get? (.ofWord "verse" "night"))
          ((s.built (titled "lamp")).weights.get? (.ofWord "verse" "night")) := by
  intro s half titled
  constructor
  · have lamps : s.registry.forms .en half = List.replicate (2 ^ 31) "lamp" :=
      Registry.forms_lamps _
    have both : s.registry.forms .en (half ++ " " ++ half) =
        List.replicate (2 ^ 31 + 2 ^ 31) "lamp" := by
      rw [Registry.forms_join, lamps, List.replicate_append_replicate]
    rw [s.get?_weights_verse both (by decide) (by decide),
      s.get?_weights_verse lamps (by decide) (by decide), Option.merge_some_some,
      ofNat_add_ofNat (by decide)]
    exact fun same => ofNat_ne_ofNat (by decide) (by decide) (by decide) (Option.some.inj same)
  · have nights : s.registry.occurring .en "verse" "night" (Document.verse "night").fields = 1 := by
      decide +kernel
    have titleName := Field.aspectName_mk (show Text.trim "title".toList ≠ [] by decide) true
    have once (text : String) : s.registry.frequency (titled text) "verse" "night" = 1 := by
      have other : Field.aspectName ⟨"title", true, some (.text text)⟩ ≠ "verse" := by
        rw [titleName]
        decide
      show s.registry.occurring .en "verse" "night" ((Document.verse "night").fields ++ [_]) = 1
      rw [Registry.occurring_append, Registry.occurring_cons, nights, if_neg other]
      rfl
    have weight (text : String) : (s.built (titled text)).weights.get? (.ofWord "verse" "night") =
        some (Float.ofNat 1) := by
      rw [s.get?_weights_of_few _ (by rw [once]; decide), once]
      rfl
    rw [weight, weight, weight, Option.merge_some_some, ofNat_add_ofNat (by decide)]
    exact fun same => ofNat_ne_ofNat (by decide) (by decide) (by decide) (Option.some.inj same)

end Concordance
