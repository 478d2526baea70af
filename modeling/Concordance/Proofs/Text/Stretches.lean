import Concordance.Text.Split

/-!
# Maximal stretches

What is left of a text that is cut at separators are its maximal stretches of other characters. A
stretch is known by all that stands before and after it, so a run that occurs in two places is in
two stretches.

* `Stretch.IsMaximal`: a stretch of characters of one kind that cannot be made longer.
* `Stretch.isMaximal_append_sep_iff`: a separator parts the stretches before it from those after it.
* `exists_stretches`: the runs of a text are all its maximal stretches, in order.
* `runs_intercalate`: runs that are joined with separators are found again.
-/

namespace Concordance.Text

variable {p : Char → Bool} {c : Char} {s t text : List Char}

/-! ## Stretches -/

/-- A stretch of a text, with what stands before and after it. -/
structure Stretch where
  before : List Char
  run : List Char
  after : List Char

namespace Stretch

variable {x : Stretch}

/-- All characters of the stretch satisfy `p`, and those next to it do not. -/
structure IsMaximal (p : Char → Bool) (text : List Char) (x : Stretch) : Prop where
  parts : x.before ++ x.run ++ x.after = text
  nonempty : x.run ≠ []
  inside : ∀ c ∈ x.run, p c = true
  start : ∀ c ∈ x.before.getLast?, p c = false
  stop : ∀ c ∈ x.after.head?, p c = false

/-- The stretch in a text that goes on with `rest`. -/
def followedBy (x : Stretch) (rest : List Char) : Stretch := { x with after := x.after ++ rest }

/-- The stretch in a text that has `front` ahead of it. -/
def precededBy (x : Stretch) (front : List Char) : Stretch := { x with before := front ++ x.before }

/-- Stretches in the order of the text. -/
def InOrder (l : List Stretch) : Prop := l.Pairwise fun x y => x.before.length < y.before.length

theorem IsMaximal.length_before_lt (h : x.IsMaximal p text) :
    x.before.length < text.length := by
  have run := List.length_pos_iff.mpr h.nonempty
  rw [← h.parts, List.length_append, List.length_append]
  omega

theorem IsMaximal.followedBy (h : x.IsMaximal p s) (sep : p c = false) :
    (x.followedBy (c :: t)).IsMaximal p (s ++ c :: t) where
  parts := by rw [← h.parts, List.append_assoc]; simp [Stretch.followedBy]
  nonempty := h.nonempty
  inside := h.inside
  start := h.start
  stop d head := by
    have head : (x.after ++ c :: t).head? = some d := head
    rw [List.head?_append, Option.or_eq_some_iff] at head
    rcases head with own | ⟨-, next⟩
    · exact h.stop d own
    · obtain rfl : c = d := Option.some.inj next
      exact sep

theorem IsMaximal.precededBy (h : x.IsMaximal p t) (sep : p c = false) :
    (x.precededBy (s ++ [c])).IsMaximal p (s ++ c :: t) where
  parts := by rw [← h.parts]; simp [Stretch.precededBy]
  nonempty := h.nonempty
  inside := h.inside
  start d last := by
    have last : (s ++ [c] ++ x.before).getLast? = some d := last
    rw [List.getLast?_append, Option.or_eq_some_iff] at last
    rcases last with own | ⟨-, next⟩
    · exact h.start d own
    · obtain rfl : c = d := by simpa using next
      exact sep
  stop := h.stop

/-- A part of a text in which `c` does not occur stands on one side of `c`. -/
theorem sides_of_notMem {before run after : List Char} (apart : c ∉ run)
    (parts : before ++ run ++ after = s ++ c :: t) :
    (∃ rest, before ++ run ++ rest = s ∧ after = rest ++ c :: t) ∨
      ∃ front, before = s ++ c :: front ∧ front ++ run ++ after = t := by
  rw [List.append_eq_append_iff] at parts
  rcases parts with ⟨rest, rfl, rfl⟩ | ⟨overlap, parts, rest⟩
  · exact .inl ⟨rest, rfl, rfl⟩
  · cases overlap with
    | nil => exact .inl ⟨[], by simpa using parts, by simpa using rest.symm⟩
    | cons d overlap =>
      -- The part ends after `c`, so it begins there as well.
      obtain ⟨rfl, rfl⟩ := List.cons.inj rest
      rw [List.append_eq_append_iff] at parts
      rcases parts with ⟨mid, rfl, rfl⟩ | ⟨mid, rfl, parts⟩
      · exact absurd (List.mem_append_right mid List.mem_cons_self) apart
      · cases mid with
        | nil =>
          obtain rfl : c :: overlap = run := parts
          exact absurd List.mem_cons_self apart
        | cons d front =>
          obtain ⟨rfl, rfl⟩ := List.cons.inj parts
          exact .inr ⟨front, rfl, rfl⟩

/-- A maximal stretch stands on one side of a separator. -/
theorem isMaximal_append_sep_iff (sep : p c = false) : x.IsMaximal p (s ++ c :: t) ↔
    (∃ y, IsMaximal p s y ∧ x = y.followedBy (c :: t)) ∨
      ∃ y, IsMaximal p t y ∧ x = y.precededBy (s ++ [c]) := by
  constructor
  · rintro ⟨parts, nonempty, inside, start, stop⟩
    obtain ⟨before, run, after⟩ := x
    have apart : c ∉ run := fun mem => by
      rw [inside c mem] at sep
      cases sep
    rcases sides_of_notMem apart parts with ⟨rest, parts, rfl⟩ | ⟨front, rfl, parts⟩
    · refine .inl ⟨⟨before, run, rest⟩, ⟨parts, nonempty, inside, start, ?_⟩, rfl⟩
      intro d head
      refine stop d ?_
      rw [List.head?_append, show rest.head? = some d from head]
      rfl
    · refine .inr ⟨⟨front, run, after⟩, ⟨parts, nonempty, inside, ?_, stop⟩, ?_⟩
      · intro d last
        refine start d ?_
        rw [List.getLast?_append, List.getLast?_cons, show front.getLast? = some d from last]
        rfl
      · simp [Stretch.precededBy]
  · rintro (⟨y, maximal, rfl⟩ | ⟨y, maximal, rfl⟩)
    · exact maximal.followedBy sep
    · exact maximal.precededBy sep

/-- A text without separators is one stretch, unless it is empty. -/
theorem isMaximal_iff_of_forall (all : ∀ c ∈ text, p c = true) :
    x.IsMaximal p text ↔ text ≠ [] ∧ x = ⟨[], text, []⟩ := by
  constructor
  · rintro ⟨rfl, nonempty, inside, start, stop⟩
    obtain ⟨before, run, after⟩ := x
    dsimp only at all nonempty start stop ⊢
    have first : before = [] := by
      refine List.getLast?_eq_none_iff.mp (Option.eq_none_iff_forall_not_mem.mpr fun c last => ?_)
      have held := all c (by simp [List.mem_of_getLast? last])
      rw [start c last] at held
      cases held
    have last : after = [] := by
      refine List.head?_eq_none_iff.mp (Option.eq_none_iff_forall_not_mem.mpr fun c head => ?_)
      have held := all c (by simp [List.mem_of_mem_head? head])
      rw [stop c head] at held
      cases held
    subst first last
    simp [nonempty]
  · rintro ⟨nonempty, rfl⟩
    exact ⟨by simp, nonempty, all, nofun, nofun⟩

end Stretch

/-! ## Runs -/

/-- A text without separators is one run, unless it is empty. -/
theorem runs_of_forall (all : ∀ c ∈ text, p c = true) (nonempty : text ≠ []) :
    runs p text = [text] := by
  rw [runs, pieces_eq_splitOnP,
    List.splitOnP_eq_singleton fun c mem => by rw [all c mem, Bool.not_true]]
  simp [nonempty]

/-- A text is cut into all its maximal stretches, in order. -/
theorem exists_stretches (p : Char → Bool) (text : List Char) :
    ∃ l, Stretch.InOrder l ∧ (∀ x, x ∈ l ↔ x.IsMaximal p text) ∧ runs p text = l.map (·.run) := by
  -- A separator, wherever it is, cuts the text into two shorter ones.
  induction length : text.length using Nat.strongRecOn generalizing text with
  | ind n ih =>
    by_cases all : ∀ c ∈ text, p c = true
    · by_cases nonempty : text = []
      · subst nonempty
        exact ⟨[], .nil, fun x => by simp [Stretch.isMaximal_iff_of_forall all], rfl⟩
      · refine ⟨[⟨[], text, []⟩], List.pairwise_singleton _ _, fun x => ?_, ?_⟩
        · simp [Stretch.isMaximal_iff_of_forall all, nonempty]
        · exact runs_of_forall all nonempty
    · simp only [Classical.not_forall, Bool.not_eq_true] at all
      obtain ⟨c, mem, sep⟩ := all
      obtain ⟨s, t, rfl⟩ := List.append_of_mem mem
      rw [List.length_append, List.length_cons] at length
      obtain ⟨front, ordered, members, runs_front⟩ := ih s.length (by omega) s rfl
      obtain ⟨back, ordered', members', runs_back⟩ := ih t.length (by omega) t rfl
      refine ⟨front.map (·.followedBy (c :: t)) ++ back.map (·.precededBy (s ++ [c])), ?_, ?_, ?_⟩
      · refine List.pairwise_append.mpr ⟨List.pairwise_map.mpr ordered, ?_, ?_⟩
        · refine List.pairwise_map.mpr (ordered'.imp fun {x y} lt => ?_)
          simp only [Stretch.precededBy, List.length_append]
          omega
        · simp only [List.forall_mem_map]
          intro x own y _
          have lt := ((members x).mp own).length_before_lt
          simp only [Stretch.precededBy, Stretch.followedBy, List.length_append,
            List.length_singleton]
          omega
      · intro x
        rw [Stretch.isMaximal_append_sep_iff sep, List.mem_append, List.mem_map, List.mem_map]
        simp only [members, members', eq_comm (b := x)]
      · rw [runs_append_sep sep, runs_front, runs_back]
        simp [Stretch.followedBy, Stretch.precededBy, Function.comp_def]

/-- Those runs that satisfy `q` are those maximal stretches that do. -/
theorem exists_stretches_filter (p : Char → Bool) (q : List Char → Bool) (text : List Char) :
    ∃ l, Stretch.InOrder l ∧ (∀ x, x ∈ l ↔ x.IsMaximal p text ∧ q x.run = true) ∧
      (runs p text).filter q = l.map (·.run) := by
  obtain ⟨l, ordered, members, cut⟩ := exists_stretches p text
  refine ⟨l.filter (q ·.run), ordered.filter _, fun x => ?_, ?_⟩
  · rw [List.mem_filter, members]
  · rw [cut, List.filter_map]
    rfl

/-- A run is not empty, and its characters are those of the text that satisfy `p`. -/
theorem of_mem_runs {run : List Char} (mem : run ∈ runs p text) :
    run ≠ [] ∧ ∀ c ∈ run, p c = true ∧ c ∈ text := by
  obtain ⟨l, -, members, cut⟩ := exists_stretches p text
  rw [cut] at mem
  obtain ⟨x, own, rfl⟩ := List.mem_map.mp mem
  have maximal := (members x).mp own
  refine ⟨maximal.nonempty, fun c held => ⟨maximal.inside c held, ?_⟩⟩
  rw [← maximal.parts]
  exact List.mem_append_left _ (List.mem_append_right _ held)

/-- Runs that are joined with separators are found again. -/
theorem runs_intercalate {sep : Char} (h : p sep = false) {words : List (List Char)}
    (proper : ∀ w ∈ words, w ≠ [] ∧ ∀ c ∈ w, p c = true) :
    runs p ([sep].intercalate words) = words := by
  induction words with
  | nil => rfl
  | cons w rest ih =>
    obtain ⟨⟨nonempty, all⟩, others⟩ := List.forall_mem_cons.mp proper
    cases rest with
    | nil =>
      rw [List.intercalate_singleton]
      exact runs_of_forall all nonempty
    | cons w' rest =>
      rw [List.intercalate_cons_cons, List.append_assoc, List.singleton_append, runs_append_sep h,
        runs_of_forall all nonempty, ih others]
      rfl

end Concordance.Text
