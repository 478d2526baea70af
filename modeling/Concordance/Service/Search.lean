import Concordance.Document.Profile
import Concordance.Service.Reply

/-!
# The search service

Requests that compare articles, rank them, or list the words of a text. Every request
builds the profiles that it needs, and shares nothing with another one but the registry.

* `SearchService.compare`, `SearchService.rank`, `SearchService.words`: the requests.
* `SearchService.compared`, `SearchService.ranking`: their answers, from the profiles.
-/

namespace Concordance

variable {σ : Type}

/-- Two articles to compare. -/
structure SimilarityRequest where
  left : Article
  right : Article
  deriving DecidableEq

/-- The similarity of two articles, or why there is none. -/
structure SimilarityResponse where
  leftId : DocumentId
  rightId : DocumentId
  score : Option Float
  error : Option String

/-- An article and the candidates to rank by their similarity to it. -/
structure RankRequest where
  query : Article
  candidates : List Article
  limit : Option UInt64
  deriving DecidableEq

/-- The first hits, their number, and the number of all hits. -/
structure RankResponse where
  queryId : DocumentId
  totalCount : Nat
  count : Nat
  results : List Hit
  error : Option String

/-- A text whose words are wanted. -/
structure WordsRequest where
  text : String
  language : Language
  deriving DecidableEq

/-- The words of a text. -/
structure WordsResponse where
  language : Language
  words : List String
  deriving DecidableEq

namespace SearchService

/-- The number of hits that are shown unless another one is wanted. -/
def defaultLimit : UInt64 := 10

/-- The answer to a comparison, from the two profiles. -/
def compared (request : SimilarityRequest) (p q : Profile) : Reply SimilarityResponse :=
  match p.similarity q with
  | .ok score => ⟨.ok, ⟨request.left.id, request.right.id, some score, none⟩⟩
  | .error e => ⟨.unprocessable, ⟨request.left.id, request.right.id, none, some e.message⟩⟩

/-- Answers with the similarity of two articles. -/
def compare (request : SimilarityRequest) :
    StateM (Registry σ) (Reply SimilarityResponse) := do
  let left ← request.left.document.profile
  let right ← request.right.document.profile
  return compared request left right

/-- The answer to a request for a ranking, from the profiles. -/
def ranking (request : RankRequest) (query : Profile) (candidates : List (DocumentId × Profile)) :
    Reply RankResponse :=
  match Ranking.all query candidates with
  | .ok hits =>
    let results := hits.take (request.limit.getD defaultLimit).toNat
    ⟨.ok, ⟨request.query.id, hits.length, results.length, results, none⟩⟩
  | .error e => ⟨.unprocessable, ⟨request.query.id, 0, 0, [], some e.message⟩⟩

/-- The profile of an article, with its number. -/
def candidate (article : Article) : StateM (Registry σ) (DocumentId × Profile) := do
  return (article.id, ← article.document.profile)

/-- Answers with the candidates that are most similar to the query. -/
def rank (request : RankRequest) : StateM (Registry σ) (Reply RankResponse) := do
  let query ← request.query.document.profile
  let candidates ← request.candidates.mapM candidate
  return ranking request query candidates

/-- Answers with the words of a text. -/
def words (request : WordsRequest) : StateM (Registry σ) (Reply WordsResponse) := do
  return ⟨.ok, ⟨request.language, ← Words.extract request.text request.language⟩⟩

end SearchService

end Concordance
