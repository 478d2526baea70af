import Concordance.Proofs.Analysis.Served
import Concordance.Proofs.Sorted.Map

/-!
# What a factory is asked for

A factory may fail, and it may answer differently from call to call. A record of its calls
tells what it was asked for and what came of it, and changes nothing else. A registry asks
for a language at most once, and keeps what came of it: the instance that was made, or after
a failure its own one.

* `Factory.recorded`, `Registry.forget`: a factory with a record, and the registry without it.
* `Registry.lookup_forget`: what it does is not changed by a record.
* `Registry.Pinned`, `Registry.Pinned.lookup`: the cache is what the record says.
* `Registry.cached_eq_filter`: the languages of the cache, in order.
-/

namespace Concordance

variable {σ : Type}

/-- What a factory was asked for and what came of it, in order. -/
abbrev Record := List (Language × Except AnalyzerError Instance)

/-- The factory with a record of its calls. -/
def Factory.recorded (factory : Factory σ) : Factory (σ × Record) where
  create language state :=
    let (outcome, world) := factory.create language state.1
    (outcome, world, state.2 ++ [(language, outcome)])

namespace Registry

/-- Whether a language was looked up. -/
def knows (r : Registry σ) (language : Language) : Bool := (r.cache.get? language).isSome

theorem cached_eq_filter (r : Registry σ) : r.cached = Language.all.filter r.knows :=
  r.cache.keys_eq_filter (by decide) fun language => by cases language <;> decide

/-! ## Look-ups -/

/-- What was found once is found ever after. -/
theorem get?_cache_lookup_of_some {r : Registry σ} {other : Language} {i : Instance}
    (found : r.cache.get? other = some i) (language : Language) :
    ((lookup language).run r).2.cache.get? other = some i := by
  by_cases same : other = language
  · subst same
    rw [lookup_of_cached found, found]
  · rw [get?_cache_lookup_of_ne r same, found]

theorem knows_lookup (r : Registry σ) (language other : Language) :
    ((lookup language).run r).2.knows other = (r.knows other || decide (language = other)) := by
  by_cases same : other = language
  · subst same
    rw [knows, get?_cache_lookup, decide_eq_true rfl, Bool.or_true]
    rfl
  · rw [knows, get?_cache_lookup_of_ne r same, decide_eq_false (Ne.symm same), Bool.or_false]
    rfl

/-! ## Records -/

/-- What the factory of the registry was asked for. -/
def asked (r : Registry (σ × Record)) : Record := r.world.2

/-- The registry without the record. -/
def forget (factory : Factory σ) (r : Registry (σ × Record)) : Registry σ :=
  ⟨factory, r.fallback, r.cache, r.world.1⟩

variable {factory : Factory σ} {fallback : Instance} {r : Registry (σ × Record)}

/-- A record changes nothing about what is looked up. -/
theorem lookup_forget (recorded : r.factory = factory.recorded) (language : Language) :
    (lookup language).run (r.forget factory) =
      (((lookup language).run r).1, ((lookup language).run r).2.forget factory) := by
  rcases r.lookup_cases language with ⟨i, found, run⟩ | ⟨absent, run⟩
  · rw [run]
    exact lookup_of_cached found
  · rcases (r.forget factory).lookup_cases language with ⟨i, found, -⟩ | ⟨-, run'⟩
    · rw [forget, absent] at found
      cases found
    · rw [run, run', recorded]
      rfl

/-- No language was asked for twice, and the cache keeps what came of it for each that was. -/
structure Pinned (factory : Factory σ) (fallback : Instance) (r : Registry (σ × Record)) :
    Prop where
  factory_eq : r.factory = factory.recorded
  fallback_eq : r.fallback = fallback
  once : (r.asked.map (·.1)).Nodup
  cached_iff : ∀ {language i}, r.cache.get? language = some i ↔
    ∃ outcome, (language, outcome) ∈ r.asked ∧ Instance.ofOutcome fallback outcome = i

namespace Pinned

theorem new (factory : Factory σ) (fallbackSerial : Nat) (world : σ) :
    Pinned factory ⟨fallbackSerial, .noop⟩ (.new factory.recorded fallbackSerial (world, [])) where
  factory_eq := rfl
  fallback_eq := rfl
  once := List.nodup_nil
  cached_iff := ⟨nofun, nofun⟩

/-- The languages of the record are those that were looked up. -/
theorem mem_asked_iff (h : r.Pinned factory fallback) {language : Language} :
    language ∈ r.asked.map (·.1) ↔ r.knows language = true := by
  rw [knows, Option.isSome_iff_exists, List.mem_map]
  constructor
  · rintro ⟨⟨_, outcome⟩, mem, rfl⟩
    exact ⟨_, h.cached_iff.mpr ⟨outcome, mem, rfl⟩⟩
  · rintro ⟨i, found⟩
    obtain ⟨outcome, mem, -⟩ := h.cached_iff.mp found
    exact ⟨(language, outcome), mem, rfl⟩

theorem count_asked (h : r.Pinned factory fallback) (language : Language) :
    (r.asked.map (·.1)).count language = if r.knows language then 1 else 0 := by
  rw [h.once.count]
  exact if_congr h.mem_asked_iff rfl rfl

/-- Only a language that was not looked up is asked for, and what comes of it is kept. -/
theorem lookup (h : r.Pinned factory fallback) (language : Language) :
    Pinned factory fallback ((Registry.lookup language).run r).2 := by
  rcases r.lookup_cases language with ⟨i, found, run⟩ | ⟨absent, run⟩
  · rwa [run]
  · have fresh : language ∉ r.asked.map (·.1) := by
      rw [h.mem_asked_iff, knows, absent]
      exact Bool.false_ne_true
    let outcome := (factory.create language r.world.1).1
    let i := Instance.ofOutcome fallback outcome
    have later : ((Registry.lookup language).run r).2 = ⟨factory.recorded, fallback,
        r.cache.insert language i, (factory.create language r.world.1).2,
        r.asked ++ [(language, outcome)]⟩ := by
      rw [run, h.factory_eq, h.fallback_eq]
      rfl
    rw [later]
    refine ⟨rfl, rfl, ?_, fun {other j} => ?_⟩
    · show ((r.asked ++ [(language, outcome)]).map (·.1)).Nodup
      rw [List.map_append]
      exact List.nodup_append_comm.mp (List.nodup_cons.mpr ⟨fresh, h.once⟩)
    · show (r.cache.insert language i).get? other = some j ↔
        ∃ o, (other, o) ∈ r.asked ++ [(language, outcome)] ∧ Instance.ofOutcome fallback o = j
      by_cases same : other = language
      · subst same
        have only (o) : (other, o) ∉ r.asked := fun mem => fresh (List.mem_map.mpr ⟨_, mem, rfl⟩)
        simp only [SortedMap.get?_insert_self, List.mem_append, only, List.mem_singleton, false_or,
          Prod.mk.injEq, true_and, Option.some.injEq, exists_eq_left]
        rfl
      · rw [SortedMap.get?_insert_of_ne _ same, h.cached_iff]
        simp only [List.mem_append, List.mem_singleton, Prod.mk.injEq, same, false_and, or_false]

/-- What was asked for is served as it is kept. -/
theorem served_of_mem_asked (h : r.Pinned factory fallback) {entry : Language × _}
    (mem : entry ∈ r.asked) :
    ((Registry.lookup entry.1).run r).1 = Instance.ofOutcome fallback entry.2 := by
  rw [lookup_of_cached (h.cached_iff.mpr ⟨entry.2, mem, rfl⟩)]

end Pinned

end Registry

end Concordance
