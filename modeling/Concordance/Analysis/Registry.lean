import Concordance.Analysis.English
import Concordance.Analysis.Russian
import Concordance.Sorted.Map

/-!
# The registry of analyzers

Analyzers are made by a factory, which may fail and may remember what it did. A
registry asks its factory once for each language and keeps what comes of it: the
analyzer, or after a failure the registry's own analyzer that knows no word.

* `Factory.builtin`: the factory of the analyzers of this library.
* `Registry.lookup`: the analyzer that serves a language.
* `Registry.cached`: the languages that were looked up so far.
* `Registry.lookup_of_cached`, `Registry.get?_cache_lookup`: a look-up is remembered.
-/

namespace Concordance

/-- An analyzer in use. Two of them are the same object exactly when they have the
same serial number. -/
structure Instance where
  serial : Nat
  analyzer : Analyzer

/-- A maker of analyzers with a state of type `σ` that changes from call to call. -/
structure Factory (σ : Type) where
  create : Language → σ → Except AnalyzerError Instance × σ

/-- The factory of the analyzers of this library. Its state is the next free serial
number. -/
def Factory.builtin : Factory Nat where
  create
    | .en, next => (.ok ⟨next, .english⟩, next + 1)
    | .ru, next => (.ok ⟨next, .russian⟩, next + 1)
    | language, next => (.error (.unsupported language), next)

/-- A cache of analyzers in front of a factory. -/
structure Registry (σ : Type) where
  factory : Factory σ
  /-- Serves the languages whose analyzer could not be made. -/
  fallback : Instance
  cache : SortedMap Language Instance
  /-- The state of the factory. -/
  world : σ

namespace Registry

variable {σ : Type}

/-- A registry in front of `factory`, with nothing looked up. -/
def new (factory : Factory σ) (fallbackSerial : Nat) (world : σ) : Registry σ :=
  ⟨factory, ⟨fallbackSerial, .noop⟩, ∅, world⟩

/-- A registry of the analyzers of this library. -/
def builtin : Registry Nat := new .builtin 0 1

/-- The analyzer that serves `language`. It is made on the first look-up. -/
def lookup (language : Language) : StateM (Registry σ) Instance := fun r =>
  match r.cache.get? language with
  | some i => (i, r)
  | none =>
    let (outcome, world) := r.factory.create language r.world
    let i := match outcome with
      | .ok made => made
      | .error _ => r.fallback
    (i, { r with cache := r.cache.insert language i, world := world })

/-- The languages that were looked up so far, in order. -/
def cached (r : Registry σ) : List Language := r.cache.keys

/-- What was looked up once is found again, and nothing else changes. -/
theorem lookup_of_cached {r : Registry σ} {language : Language} {i : Instance}
    (h : r.cache.get? language = some i) : (lookup language).run r = (i, r) := by
  show lookup language r = (i, r)
  simp [lookup, h]

theorem get?_cache_lookup (r : Registry σ) (language : Language) :
    ((lookup language).run r).2.cache.get? language = some ((lookup language).run r).1 := by
  show (lookup language r).2.cache.get? language = some (lookup language r).1
  unfold lookup
  split <;> simp_all

theorem get?_cache_lookup_of_ne (r : Registry σ) {language other : Language}
    (h : other ≠ language) :
    ((lookup language).run r).2.cache.get? other = r.cache.get? other := by
  show (lookup language r).2.cache.get? other = r.cache.get? other
  unfold lookup
  split
  · rfl
  · exact SortedMap.get?_insert_of_ne _ h _

end Registry

end Concordance
