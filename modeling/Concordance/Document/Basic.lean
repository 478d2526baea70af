import Concordance.Language
import Concordance.Profile.Ranking

/-!
# Documents

A document has a number, a language and fields. A field has a name, may have a
value, and says whether its text is to be taken apart into words.

* `Article.document`: the fields of an article.
-/

namespace Concordance

/-- A field of a document. -/
structure Field where
  name : String
  extractWords : Bool
  /-- The value, if the document has one for this field. -/
  value : Option FacetValue

/-- A document as its fields, in the order in which they are declared. -/
structure Document where
  id : DocumentId
  language : Language
  fields : List Field

/-- A titled text with optional bibliographic data. -/
structure Article where
  id : DocumentId
  language : Language
  title : String
  body : String
  author : Option String
  year : Option Int64
  deriving DecidableEq

/-- The fields of an article. Its title and its body are taken apart into words. -/
def Article.document (a : Article) : Document where
  id := a.id
  language := a.language
  fields := [
    ⟨"title", true, some (.text a.title)⟩,
    ⟨"body", true, some (.text a.body)⟩,
    ⟨"author", false, a.author.map .text⟩,
    ⟨"year", false, a.year.map .integer⟩]

end Concordance
