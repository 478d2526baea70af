import Concordance.Proofs.Analysis.PureFactory
import Concordance.Proofs.Analysis.Recorded
import Concordance.Proofs.Document.Lookups

/-!
# Histories of a registry

A registry is asked for analyzers, and for what they know about words, texts and documents.
Whatever it is asked, and whatever its factory does, it calls the factory once for each
language that was looked up. What came of that call serves the language from then on.

* `Call`, `Call.perform`: what a registry is asked for.
* `Call.needsAnalyzer`, `Call.answer`: whether this looks up a language, and what is answered.
* `Call.run_perform`, `run_performAll`: one call, and many of them.
* `Registry.first_outcome_pinned`: the first outcome is pinned.
-/

namespace Concordance

open Registry

variable {σ : Type}

/-- What a registry is asked for, directly or through the words of a language. -/
inductive Call
  | lookup (language : Language)
  | normalForms (word : String) (language : Language)
  | isNormal (token : String) (language : Language)
  | canonical (word : String) (language : Language)
  | extract (text : String) (language : Language)
  | profile (document : Document)

/-- What is answered. -/
inductive Call.Answer
  | served (i : Instance)
  | forms (forms : Forms)
  | normal (isNormal : Bool)
  | form (form : String)
  | words (words : List String)
  | profile (p : Profile)

namespace Call

/-- The language that the call is about. -/
def language : Call → Language
  | lookup language => language
  | normalForms _ language => language
  | isNormal _ language => language
  | canonical _ language => language
  | extract _ language => language
  | profile d => d.language

/-- Whether the language is looked up. It is not where there is nothing but numbers. -/
def needsAnalyzer : Call → Bool
  | isNormal token _ => !Words.isNumber token
  | extract text _ => Words.needsAnalyzer text
  | profile d => d.needsAnalyzer
  | _ => true

/-- What is answered if `i` serves the language. -/
def answer (i : Instance) : Call → Answer
  | lookup _ => .served i
  | normalForms word _ => .forms (i.analyzer.formsOf word)
  | isNormal token _ => .normal (i.analyzer.knows token)
  | canonical word _ => .form (i.analyzer.canonical word)
  | extract text _ => .words (i.analyzer.words text)
  | profile d => .profile (i.analyzer.profile d)

/-- Makes the call. -/
def perform : Call → StateM (Registry σ) Answer
  | lookup language => return .served (← Registry.lookup language)
  | normalForms word language => return .forms (← Words.normalForms word language)
  | isNormal token language => return .normal (← Words.isNormal token language)
  | canonical word language => return .form (← Words.canonical word language)
  | extract text language => return .words (← Words.extract text language)
  | profile d => return .profile (← d.profile)

/-- A call is answered from the instance that serves its language, and changes nothing more than
a look-up does. -/
theorem run_perform (c : Call) (r : Registry σ) :
    c.perform.run r = (c.answer ((Registry.lookup c.language).run r).1,
      if c.needsAnalyzer then ((Registry.lookup c.language).run r).2 else r) := by
  cases c with
  | lookup language => rfl
  | normalForms word language => rfl
  | isNormal token language =>
    rw [perform, run_bind, (looks_isNormal token).run_eq (uses_isNormal token), run_pure]
    rfl
  | canonical word language => rfl
  | extract text language =>
    rw [perform, run_bind, (looks_extract text).run_eq (uses_extract text), run_pure]
    rfl
  | profile d =>
    rw [perform, run_bind, (looks_profile d).run_eq (uses_profile d), run_pure]
    rfl

/-- A call that looks up nothing is answered alike whatever serves its language. -/
theorem answer_congr {c : Call} (none : c.needsAnalyzer = false) (i j : Instance) :
    c.answer i = c.answer j := by
  cases c with
  | lookup | normalForms | canonical => cases none
  | isNormal token =>
    have number : Words.isNumber token = true := by simpa [needsAnalyzer] using none
    rw [answer, answer, Analyzer.knows_of_isNumber _ number, Analyzer.knows_of_isNumber _ number]
  | extract text => rw [answer, answer, i.analyzer.words_congr j.analyzer none]
  | profile d => rw [answer, answer, i.analyzer.profile_congr j.analyzer none]

end Call

/-! ## Many calls -/

/-- Makes the calls one after the other. -/
def performAll : List Call → StateM (Registry σ) (List Call.Answer)
  | [] => return []
  | c :: rest => do
    let first ← c.perform
    let later ← performAll rest
    return first :: later

/-- Whether one of the calls looks up the language. -/
def lookedUp (calls : List Call) (language : Language) : Bool :=
  calls.any fun c => c.needsAnalyzer && decide (c.language = language)

theorem lookedUp_cons (c : Call) (rest : List Call) (language : Language) :
    lookedUp (c :: rest) language =
      (c.needsAnalyzer && decide (c.language = language) || lookedUp rest language) :=
  List.any_cons

theorem run_performAll_cons (c : Call) (rest : List Call) (r : Registry σ) :
    (performAll (c :: rest)).run r =
      ((c.perform.run r).1 :: ((performAll rest).run (c.perform.run r).2).1,
        ((performAll rest).run (c.perform.run r).2).2) := by
  rw [performAll, run_bind, run_bind, run_pure]

/-- What look-ups keep is kept by calls. -/
theorem performAll_induction {P : Registry σ → Prop}
    (step : ∀ r language, P r → P ((lookup language).run r).2) (calls : List Call)
    {r : Registry σ} (h : P r) : P ((performAll calls).run r).2 := by
  induction calls generalizing r with
  | nil => exact h
  | cons c rest ih =>
    rw [run_performAll_cons]
    refine ih ?_
    rw [c.run_perform]
    dsimp only
    split
    · exact step r c.language h
    · exact h

theorem knows_performAll (calls : List Call) (r : Registry σ) (language : Language) :
    ((performAll calls).run r).2.knows language =
      (r.knows language || lookedUp calls language) := by
  induction calls generalizing r with
  | nil => exact (Bool.or_false _).symm
  | cons c rest ih =>
    rw [run_performAll_cons, ih, lookedUp_cons, c.run_perform]
    dsimp only
    cases c.needsAnalyzer with
    | true => rw [if_pos rfl, knows_lookup, Bool.true_and, Bool.or_assoc]
    | false => rfl

/-- All calls are answered from the instances that are served in the end. -/
theorem answers_performAll (calls : List Call) (r : Registry σ) :
    ((performAll calls).run r).1 = calls.map fun c =>
      c.answer ((lookup c.language).run ((performAll calls).run r).2).1 := by
  induction calls generalizing r with
  | nil => rfl
  | cons c rest ih =>
    have own : (c.perform.run r).1 = c.answer ((lookup c.language).run
        ((performAll rest).run (c.perform.run r).2).2).1 := by
      refine (congrArg Prod.fst (c.run_perform r)).trans ?_
      cases needs : c.needsAnalyzer with
      | false => exact Call.answer_congr needs _ _
      | true =>
        -- What the call found stays in the cache while the others are made.
        have found : (c.perform.run r).2.cache.get? c.language =
            some ((lookup c.language).run r).1 := by
          rw [c.run_perform, needs]
          exact get?_cache_lookup r c.language
        have kept := performAll_induction (P := fun r' => r'.cache.get? c.language = _)
          (fun _ other found => get?_cache_lookup_of_some found other) rest found
        rw [lookup_of_cached kept]
    rw [run_performAll_cons, List.map_cons, ih, own]

section

variable {factory : Factory σ} {r : Registry (σ × Record)}

theorem Call.perform_forget (c : Call) (recorded : r.factory = factory.recorded) :
    c.perform.run (r.forget factory) =
      ((c.perform.run r).1, (c.perform.run r).2.forget factory) := by
  rw [run_perform, run_perform, lookup_forget recorded]
  cases c.needsAnalyzer <;> rfl

/-- A record changes nothing about the calls. -/
theorem performAll_forget (calls : List Call) (recorded : r.factory = factory.recorded) :
    (performAll calls).run (r.forget factory) =
      (((performAll calls).run r).1, ((performAll calls).run r).2.forget factory) := by
  induction calls generalizing r with
  | nil => rfl
  | cons c rest ih =>
    have later : (c.perform.run r).2.factory = factory.recorded :=
      performAll_induction (P := fun r' => r'.factory = factory.recorded)
        (fun r' language same => (factory_lookup r' language).1.trans same) [c] recorded
    rw [run_performAll_cons, run_performAll_cons, c.perform_forget recorded, ih later]

end

namespace Registry

/-- Let calls be made one after the other, whatever the factory does. A record of the factory
changes neither the answers nor the registry. It holds one call for each language that was
looked up, and none for any other. There is one instance for each language from which all calls
about it are answered, and it is what came of the call to the factory: what was made, or
after a failure the one instance without words. The languages of the cache are those that
were looked up, in order. -/
theorem first_outcome_pinned (factory : Factory σ) (fallbackSerial : Nat) (world : σ)
    (calls : List Call) :
    let plain := (performAll calls).run (new factory fallbackSerial world)
    let watched := (performAll calls).run (new factory.recorded fallbackSerial (world, []))
    (watched.1 = plain.1 ∧ watched.2.forget factory = plain.2) ∧
      (∀ language, (watched.2.asked.map (·.1)).count language =
        if lookedUp calls language then 1 else 0) ∧
      (∃ served : Language → Instance, plain.1 = calls.map (fun c => c.answer (served c.language)) ∧
        ∀ entry ∈ watched.2.asked,
          served entry.1 = Instance.ofOutcome ⟨fallbackSerial, .noop⟩ entry.2) ∧
      plain.2.cached = Language.all.filter (lookedUp calls) := by
  intro plain watched
  have start := Pinned.new factory fallbackSerial world
  have pinned : watched.2.Pinned factory ⟨fallbackSerial, .noop⟩ :=
    performAll_induction (fun _ language h => h.lookup language) calls start
  have same : plain = (watched.1, watched.2.forget factory) :=
    performAll_forget calls start.factory_eq
  let served (language : Language) : Instance := ((lookup language).run watched.2).1
  have known (language : Language) : watched.2.knows language = lookedUp calls language :=
    knows_performAll calls _ language
  refine ⟨⟨?_, ?_⟩, fun language => ?_, ⟨served, ?_, fun entry mem => ?_⟩, ?_⟩
  · rw [same]
  · rw [same]
  · rw [pinned.count_asked, known]
  · rw [same]
    exact answers_performAll calls _
  · exact pinned.served_of_mem_asked mem
  · rw [cached_eq_filter]
    exact List.filter_congr fun language _ => knows_performAll calls _ language

/-- Numbers are not looked up, and a language without an analyzer is. -/
example : ((performAll [.isNormal "1984" .en, .extract "12, 13" .en, .lookup .de]).run
    Registry.builtin).2.cached = [.de] := by decide +kernel

end Registry

end Concordance
