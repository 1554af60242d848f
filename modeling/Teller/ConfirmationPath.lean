import Teller.Json.Value
import Teller.Schema.Shape

/-!
# Where confirmations go

Banks serve the pages that confirm a TAN or a consent under one of two paths.

* `ConfirmationPath`: the two; `ConfirmationPath.text`: the path itself.
* `ConfirmationPath.word`: what settings call it.
-/

namespace Teller

/-- The pages that confirm. -/
inductive ConfirmationPath where
  | payment
  | view
deriving DecidableEq, Repr

namespace ConfirmationPath

/-- The path of the pages. -/
def text : ConfirmationPath → String
  | .payment => "/payment/confirmation"
  | .view => "/view/payment/confirmation"

/-- The word for the pages in settings. -/
def word : ConfirmationPath → String
  | .payment => "payment"
  | .view => "view"

/-- Both words. -/
def words : List String := [word .payment, word .view]

/-- The shape of the word in a document. -/
def shape : Schema.Shape := .word words

/-- The pages at a place among the words. -/
def ofIndex : Fin words.length → ConfirmationPath
  | ⟨0, _⟩ => .payment
  | ⟨_ + 1, _⟩ => .view

/-- The word as a JSON value. -/
def toJson (p : ConfirmationPath) : Json.Value := .text p.word

end ConfirmationPath

end Teller
