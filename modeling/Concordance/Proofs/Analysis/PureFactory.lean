import Concordance.Proofs.Analysis.Served

/-!
# Factories without memory

A factory may be a pure function of the language: whenever it is asked, the same analyzer
comes of it, or the same error. In front of such a factory a registry serves each language
with one analyzer, however often and in whatever order languages were looked up.

* `Factory.Computes`: the factory is a pure function of the language, as that of this library is.
* `Registry.Reached`: the registries that look-ups lead to.
* `Registry.Reached.serving_eq`: what they serve.
* `Yields`, `Yields.bind`: a computation that gives the same from all states with a property.
* `Gives`, `Uses.gives`: a computation that gives the same in all of these registries.
-/

namespace Concordance

variable {σ α β : Type} {factory : Factory σ} {outcome : Language → Except AnalyzerError Analyzer}

/-- What the factory makes for a language does not depend on its state. The instances may
differ in their serial numbers. -/
def Factory.Computes (factory : Factory σ) (outcome : Language → Except AnalyzerError Analyzer) :
    Prop :=
  ∀ language world, (factory.create language world).1.map Instance.analyzer = outcome language

/-- What comes of asking the factory of this library. -/
def Factory.builtinOutcome : Language → Except AnalyzerError Analyzer
  | .en => .ok .english
  | .ru => .ok .russian
  | language => .error (.unsupported language)

theorem Factory.builtin_computes : Factory.builtin.Computes builtinOutcome := by
  intro language world
  cases language <;> rfl

/-- The analyzer in use for a language after such an outcome. -/
def inUse (outcome : Language → Except AnalyzerError Analyzer) (language : Language) : Analyzer :=
  match outcome language with
  | .ok a => a
  | .error _ => .noop

namespace Registry

/-- The registries that look-ups lead to, from a new one on. -/
inductive Reached (factory : Factory σ) : Registry σ → Prop
  | new (fallbackSerial : Nat) (world : σ) : Reached factory (.new factory fallbackSerial world)
  | lookup {r : Registry σ} (h : Reached factory r) (language : Language) :
      Reached factory ((Registry.lookup language).run r).2

/-- What is kept in a registry in front of a pure factory. -/
structure Keeps (factory : Factory σ) (outcome : Language → Except AnalyzerError Analyzer)
    (r : Registry σ) : Prop where
  factory_eq : r.factory = factory
  fallback_eq : r.fallback.analyzer = .noop
  cached : ∀ {language i}, r.cache.get? language = some i → i.analyzer = inUse outcome language

/-- A look-up gives the analyzer in use, from the cache or from the factory. -/
theorem Keeps.serving_eq {r : Registry σ} (h : r.Keeps factory outcome)
    (computes : factory.Computes outcome) (language : Language) :
    r.serving language = inUse outcome language := by
  rw [serving]
  rcases r.lookup_cases language with ⟨i, found, run⟩ | ⟨-, run⟩
  · rw [run]
    exact h.cached found
  · have made := computes language r.world
    rw [← h.factory_eq] at made
    simp only [run, inUse, ← made]
    cases (r.factory.create language r.world).1 with
    | ok i => rfl
    | error e => exact h.fallback_eq

theorem factory_lookup (r : Registry σ) (language : Language) :
    ((lookup language).run r).2.factory = r.factory ∧
      ((lookup language).run r).2.fallback = r.fallback := by
  rcases r.lookup_cases language with ⟨i, -, run⟩ | ⟨-, run⟩
  · rw [run]
    exact ⟨rfl, rfl⟩
  · rw [run]
    exact ⟨rfl, rfl⟩

/-- A look-up keeps it so: what is new in the cache is what was served. -/
theorem Keeps.lookup {r : Registry σ} (h : r.Keeps factory outcome)
    (computes : factory.Computes outcome) (language : Language) :
    Keeps factory outcome ((Registry.lookup language).run r).2 := by
  obtain ⟨sameFactory, sameFallback⟩ := factory_lookup r language
  refine ⟨sameFactory.trans h.factory_eq, ?_, fun {other i} found => ?_⟩
  · rw [sameFallback, h.fallback_eq]
  · by_cases same : other = language
    · subst same
      rw [get?_cache_lookup, Option.some.injEq] at found
      rw [← found]
      exact h.serving_eq computes other
    · rw [get?_cache_lookup_of_ne r same] at found
      exact h.cached found

namespace Reached

variable {r : Registry σ}

theorem keeps (h : Reached factory r) (computes : factory.Computes outcome) :
    r.Keeps factory outcome := by
  induction h with
  | new fallbackSerial world => exact ⟨rfl, rfl, nofun⟩
  | lookup _ language ih => exact ih.lookup computes language

theorem serving_eq (h : Reached factory r) (computes : factory.Computes outcome)
    (language : Language) : r.serving language = inUse outcome language :=
  (h.keeps computes).serving_eq computes language

end Reached

end Registry

/-! ## Computations whose result does not depend on the state -/

/-- From every state with the property the computation gives `x`, and it leaves such a state. -/
def Yields (P : σ → Prop) (m : StateM σ α) (x : α) : Prop :=
  ∀ s, P s → (m.run s).1 = x ∧ P (m.run s).2

namespace Yields

variable {P : σ → Prop}

theorem pure (x : α) : Yields P (pure x) x := fun _ holds => ⟨rfl, holds⟩

theorem bind {m : StateM σ α} {k : α → StateM σ β} {x : α} {y : β} (hm : Yields P m x)
    (hk : Yields P (k x) y) : Yields P (m >>= k) y := by
  intro s holds
  obtain ⟨value, later⟩ := hm s holds
  rw [run_bind, value]
  exact hk _ later

theorem mapM {f : α → StateM σ β} {g : α → β} (h : ∀ a, Yields P (f a) (g a)) (l : List α) :
    Yields P (l.mapM f) (l.map g) := by
  induction l with
  | nil => exact .pure []
  | cons a rest ih =>
    rw [List.mapM_cons]
    exact (h a).bind (ih.bind (.pure _))

theorem flatMapM {f : α → StateM σ (List β)} {g : α → List β} (h : ∀ a, Yields P (f a) (g a))
    (l : List α) : Yields P (l.flatMapM f) (l.flatMap g) := by
  induction l with
  | nil => exact .pure []
  | cons a rest ih =>
    rw [List.flatMapM_cons, List.flatMap_cons]
    exact (h a).bind (ih.bind (.pure _))

end Yields

open Registry

/-- In every registry that is reached the computation gives `x`, and it leads to another one. -/
def Gives (factory : Factory σ) (m : StateM (Registry σ) α) (x : α) : Prop :=
  ∀ r, Reached factory r → (m.run r).1 = x ∧ Reached factory (m.run r).2

/-- What is done with one analyzer is done with the one in use. -/
theorem Uses.gives {language : Language} {m : StateM (Registry σ) α} {f : Analyzer → α}
    (h : Uses language m f) (computes : factory.Computes outcome) :
    Gives factory m (f (inUse outcome language)) := by
  intro r reached
  constructor
  · rw [h.value_eq, reached.serving_eq computes]
  · rcases h.state_eq r with same | looked
    · rwa [same]
    · rw [looked]
      exact reached.lookup language

namespace Gives

theorem pure (x : α) : Gives factory (pure x) x := Yields.pure x

theorem bind {m : StateM (Registry σ) α} {k : α → StateM (Registry σ) β} {x : α} {y : β}
    (hm : Gives factory m x) (hk : Gives factory (k x) y) : Gives factory (m >>= k) y :=
  Yields.bind hm hk

end Gives

end Concordance
