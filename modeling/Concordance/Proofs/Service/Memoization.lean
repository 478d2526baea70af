import Concordance.Proofs.Document.Sharing
import Concordance.Proofs.Document.Uncached
import Concordance.Proofs.Service.Ranking
import Concordance.Service.Query

/-!
# Memoization cannot be seen

An indexer keeps much from query to query: the analyzers that it was served, the failures to
make one, and the aspects that it shares. In front of a factory that is a pure function of the
language, nothing of this can be seen in an answer: after every history, a query is answered as
by a new indexer, and as by asking the factory anew for every word.

* `Indexer.mirrors_compare`, `Indexer.mirrors_rank`, `Indexer.mirrors_words`: an indexer answers
  as its registry would without shared aspects, whatever the factory does.
* `Query.answer`, `Query.yields_perform`, `Query.yields_run`: what a query and a history are
  answered by an indexer.
* `Query.anew`, `Query.steady_anew`: the same without a cache.
* `Query.perform_after_history`: memoization cannot be seen.
-/

namespace Concordance

open Registry

variable {σ α : Type} {factory : Factory σ} {outcome : Language → Except AnalyzerError Analyzer}

/-! ## Requests without shared aspects -/

namespace Indexer

theorem mirrors_compare (request : SimilarityRequest) :
    Mirrors (compare request : StateM (Indexer σ) _) (SearchService.compare request) :=
  (mirrors_profile _).bind fun _ => (mirrors_profile _).bind fun _ => .pure _

theorem mirrors_candidate (x : Article) :
    Mirrors (candidate x : StateM (Indexer σ) _) (SearchService.candidate x) :=
  (mirrors_profile _).bind fun _ => .pure _

theorem mirrors_rank (request : RankRequest) :
    Mirrors (rank request : StateM (Indexer σ) _) (SearchService.rank request) :=
  (mirrors_profile _).bind fun _ => (Mirrors.mapM mirrors_candidate).bind fun _ => .pure _

theorem mirrors_words (request : WordsRequest) :
    Mirrors (words request : StateM (Indexer σ) _) (SearchService.words request) :=
  .ask _

/-- The indexers whose registry look-ups lead to. -/
def Reached (factory : Factory σ) (s : Indexer σ) : Prop := Registry.Reached factory s.registry

end Indexer

/-- What is given in all registries is given by all indexers in front of them. -/
theorem Mirrors.yields {m : StateM (Indexer σ) α} {m' : StateM (Registry σ) α} {x : α}
    (same : Mirrors m m') (gives : Gives factory m' x) : Yields (Indexer.Reached factory) m x := by
  intro s reached
  obtain ⟨value, left⟩ := same s
  rw [value, Indexer.Reached, left]
  exact gives s.registry reached

theorem SearchService.gives_words (computes : factory.Computes outcome) (request : WordsRequest) :
    Gives factory (SearchService.words request)
      ⟨.ok, ⟨request.language, (inUse outcome request.language).words request.text⟩⟩ :=
  ((uses_extract request.text).gives computes).bind (.pure _)

namespace Query

/-! ## Answers -/

/-- The answer to a query, from the analyzers in use. -/
def answer (outcome : Language → Except AnalyzerError Analyzer) : Query → Answer
  | lookup language => .analyzer (inUse outcome language)
  | words request =>
    .words ⟨.ok, ⟨request.language, (inUse outcome request.language).words request.text⟩⟩
  | profile d => .profile ((inUse outcome d.language).profile d)
  | compare request => .compared
    (SearchService.compared request (request.left.profile outcome) (request.right.profile outcome))
  | rank request => .ranked (SearchService.ranking request (request.query.profile outcome)
    (SearchService.entries outcome request.candidates))

/-- Asks the factory for an analyzer whenever one is needed, and keeps none. -/
def anew (factory : Factory σ) : Query → StateM σ Answer
  | lookup language => return .analyzer (← factory.analyzer language)
  | words request =>
    return .words ⟨.ok, ⟨request.language, ← factory.words request.text request.language⟩⟩
  | profile d => return .profile (← factory.profile d)
  | compare request => do
    let left ← factory.profile request.left.document
    let right ← factory.profile request.right.document
    return .compared (SearchService.compared request left right)
  | rank request => do
    let query ← factory.profile request.query.document
    let candidates ← request.candidates.mapM fun x => do
      return (x.id, ← factory.profile x.document)
    return .ranked (SearchService.ranking request query candidates)

section

variable (computes : factory.Computes outcome)

include computes

/-- An indexer answers a query from the analyzers in use, whatever it keeps. -/
theorem yields_perform (query : Query) :
    Yields (Indexer.Reached factory) query.perform (query.answer outcome) := by
  cases query with
  | lookup language =>
    -- The instance depends on what was made before, its analyzer does not.
    have uses : Uses language (do return Answer.analyzer (← Registry.lookup language).analyzer :
        StateM (Registry σ) Answer) Answer.analyzer := ⟨fun _ => rfl, fun _ => .inr rfl⟩
    exact ((Mirrors.ask _).bind fun i => .pure _).yields (uses.gives computes)
  | words request =>
    exact ((Indexer.mirrors_words request).yields
      (SearchService.gives_words computes request)).bind (.pure _)
  | profile d =>
    exact ((Indexer.mirrors_profile d).yields ((uses_profile d).gives computes)).bind (.pure _)
  | compare request =>
    exact ((Indexer.mirrors_compare request).yields
      (SearchService.gives_compare computes request)).bind (.pure _)
  | rank request =>
    exact ((Indexer.mirrors_rank request).yields
      (SearchService.gives_rank computes request)).bind (.pure _)

/-- An indexer answers every query of a history so. -/
theorem yields_run (history : List Query) :
    Yields (Indexer.Reached factory) (run history) (history.map (answer outcome)) := by
  induction history with
  | nil => exact .pure []
  | cons query rest ih => exact (yields_perform computes query).bind (ih.bind (.pure _))

/-- Without a cache, a query is answered from the analyzers in use as well. -/
theorem steady_anew (query : Query) : Steady (query.anew factory) (query.answer outcome) := by
  cases query with
  | lookup language => exact (steady_analyzer computes language).bind (.pure _)
  | words request => exact (steady_words computes request.text request.language).bind (.pure _)
  | profile d => exact (steady_profile computes d).bind (.pure _)
  | compare request =>
    exact (steady_profile computes request.left.document).bind
      ((steady_profile computes request.right.document).bind (.pure _))
  | rank request =>
    have candidate (x : Article) : Steady (do return (x.id, ← factory.profile x.document))
        (x.id, x.profile outcome) := (steady_profile computes x.document).bind (.pure _)
    exact (steady_profile computes request.query.document).bind
      ((Yields.mapM candidate request.candidates).bind (.pure _))

/-- Let the factory be a pure function of the language. After every history, a query is answered
as by a new indexer, and this is how it is answered by asking the factory anew for every word,
where a factory that fails stands for an analyzer that knows no word. -/
theorem perform_after_history (history : List Query) (query : Query) (serial serial' : ℕ)
    (world world' world'' : σ) :
    let used := ((run history).run (.new (.new factory serial world))).2
    let fresh := Indexer.new (.new factory serial' world')
    (query.perform.run used).1 = (query.perform.run fresh).1 ∧
      (query.perform.run fresh).1 = ((query.anew factory).run world'').1 := by
  intro used fresh
  have start (serial : ℕ) (world : σ) :
      Indexer.Reached factory (.new (.new factory serial world)) := .new serial world
  have reached : Indexer.Reached factory used := (yields_run computes history _ (start _ _)).2
  have answered := (yields_perform computes query used reached).1
  have answered' := (yields_perform computes query fresh (start _ _)).1
  have anew := (steady_anew computes query world'' trivial).1
  exact ⟨answered.trans answered'.symm, answered'.trans anew.symm⟩

end

/-- Queries in several languages, for one of which there is no analyzer. -/
def mixed : List Query :=
  [.words ⟨"Лампы и ночи", .ru⟩, .lookup .de, .rank .nights, .words ⟨"Lampen", .de⟩]

theorem perform_after_history_mixed : Factory.builtin.Computes Factory.builtinOutcome ∧
    let used := ((run mixed).run (.new Registry.builtin)).2
    ((compare ⟨.nights, .lamps⟩).perform.run used).1 =
      (((compare ⟨.nights, .lamps⟩).anew Factory.builtin).run 1).1 := by
  obtain ⟨fresh, anew⟩ := perform_after_history Factory.builtin_computes mixed
    (compare ⟨.nights, .lamps⟩) 0 0 1 1 1
  exact ⟨Factory.builtin_computes, fresh.trans anew⟩

end Query

end Concordance
