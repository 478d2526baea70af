import Concordance.Analysis.Registry
import Concordance.Text.NumericChar
import Concordance.Text.Split
import Concordance.Text.WordChar

/-!
# The words of a text

A text is lower-cased and cut into maximal runs of word characters. A run is a
normal word when it is more than a number and the analyzer of the language knows a
normal form of it. The analyzer is looked up only for runs that are no numbers.

* `Words.tokens`: the runs of a text.
* `Words.extract`: the normal words among them, in order and with repetitions.
* `Words.canonical`: the form that stands for a word.
-/

namespace Concordance.Words

variable {σ : Type}

/-- The maximal runs of word characters of the text in small letters. -/
def tokens (text : String) : List String :=
  (Text.runs Text.isWordChar (Text.lowercase text.toList)).map String.ofList

/-- Whether a token is empty or consists of numeric characters alone. -/
def isNumber (token : String) : Bool := token.toList.all Text.isNumericChar

/-- The normal forms of a word. -/
def normalForms (word : String) (language : Language) : StateM (Registry σ) Forms := do
  let i ← Registry.lookup language
  return i.analyzer.formsOf word

/-- Whether a token is a word with a normal form. -/
def isNormal (token : String) (language : Language) : StateM (Registry σ) Bool := do
  if isNumber token then
    return false
  else
    let forms ← normalForms token language
    return !forms.isEmpty

/-- Those of the tokens that are normal words. -/
def keepNormal (language : Language) : List String → StateM (Registry σ) (List String)
  | [] => return []
  | token :: rest => do
    let normal ← isNormal token language
    let kept ← keepNormal language rest
    return if normal then token :: kept else kept

/-- The normal words of a text. -/
def extract (text : String) (language : Language) : StateM (Registry σ) (List String) :=
  keepNormal language (tokens text)

/-- The least normal form of a word, or the word itself if it has none. -/
def canonical (word : String) (language : Language) : StateM (Registry σ) String := do
  let forms ← normalForms word language
  return forms.min?.getD word

end Concordance.Words
