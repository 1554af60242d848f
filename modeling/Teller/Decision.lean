import Teller.Json.Decode
import Teller.Text.Blank

/-!
# Decisions on a consent

* `Decision`: accepted or rejected; `Decision.word`: the word that stands for it on the wire.
* `Decision.ofText?`: reads a decision that somebody typed. Blanks around it and the case of its
  letters do not matter.
* `Decision.ofJson`: reads a decision from a JSON text, where only the exact word counts.
-/

namespace Teller

/-- The answer to a pending consent. -/
inductive Decision where
  | accepted
  | rejected
deriving DecidableEq, Repr

namespace Decision

/-- The word of a decision. -/
def word : Decision → String
  | .accepted => "ACCEPTED"
  | .rejected => "REJECTED"

/-- Both words. -/
def words : List String := [word .accepted, word .rejected]

/-- The decision of a typed text, if it names one. -/
def ofText? (s : String) : Option Decision :=
  let t := (Text.trim s).map Char.toUpper
  if t = word .accepted then some .accepted
  else if t = word .rejected then some .rejected
  else none

/-- What the refusal of a text says. -/
def refusal (s : String) : String :=
  "Invalid argument: consent decision must be ACCEPTED or REJECTED, got '" ++ s ++ "'"

/-- The shape of a decision in a document. -/
def shape : Schema.Shape := .word words

/-- The decision at a place among the words. -/
def ofIndex : Fin words.length → Decision
  | ⟨0, _⟩ => .accepted
  | ⟨_ + 1, _⟩ => .rejected

/-- Reads a decision from a JSON text. -/
def ofJson (text : String) : Except Json.Error Decision := ofIndex <$> Json.decode shape text

/-- A decision as a JSON value. -/
def toJson (d : Decision) : Json.Value := .text d.word

end Decision

end Teller
