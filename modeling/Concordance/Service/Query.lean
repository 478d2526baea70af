import Concordance.Document.Indexer
import Concordance.Service.Search

/-!
# Queries to an indexer

Everything that can be asked of an indexer, as one type, so that its history can be
spoken of: a history is a list of queries. The requests of the search service are
answered from the profiles that the indexer builds.

* `Indexer.compare`, `Indexer.rank`, `Indexer.words`: the requests of the search service.
* `Query.perform`: the answer to a query and the indexer that it leaves.
* `Query.run`: the answers to a history and the indexer that it leaves.
-/

namespace Concordance

variable {σ : Type}

namespace Indexer

/-- Answers with the similarity of two articles. -/
def compare (request : SimilarityRequest) :
    StateM (Indexer σ) (Reply SimilarityResponse) := do
  let left ← profile request.left.document
  let right ← profile request.right.document
  return SearchService.compared request left right

/-- The profile of an article, with its number. -/
def candidate (article : Article) : StateM (Indexer σ) (DocumentId × Profile) := do
  return (article.id, ← profile article.document)

/-- Answers with the candidates that are most similar to the query. -/
def rank (request : RankRequest) : StateM (Indexer σ) (Reply RankResponse) := do
  let query ← profile request.query.document
  let candidates ← request.candidates.mapM candidate
  return SearchService.ranking request query candidates

/-- Answers with the words of a text. -/
def words (request : WordsRequest) : StateM (Indexer σ) (Reply WordsResponse) :=
  ask (SearchService.words request)

end Indexer

/-- What can be asked of an indexer. -/
inductive Query
  /-- The analyzer of a language. -/
  | lookup (language : Language)
  | words (request : WordsRequest)
  | profile (document : Document)
  | compare (request : SimilarityRequest)
  | rank (request : RankRequest)

namespace Query

/-- The answer to a query. -/
inductive Answer
  | analyzer (analyzer : Analyzer)
  | words (reply : Reply WordsResponse)
  | profile (profile : Profile)
  | compared (reply : Reply SimilarityResponse)
  | ranked (reply : Reply RankResponse)

/-- Answers a query. -/
def perform : Query → StateM (Indexer σ) Answer
  | lookup language => return .analyzer (← Indexer.ask (Registry.lookup language)).analyzer
  | words request => return .words (← Indexer.words request)
  | profile document => return .profile (← Indexer.profile document)
  | compare request => return .compared (← Indexer.compare request)
  | rank request => return .ranked (← Indexer.rank request)

/-- Answers queries one after the other. -/
def run : List Query → StateM (Indexer σ) (List Answer)
  | [] => return []
  | query :: rest => do
    let answer ← query.perform
    let answers ← run rest
    return answer :: answers

end Query

end Concordance
