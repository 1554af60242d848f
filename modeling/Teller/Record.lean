import Teller.Json.Decode

/-!
# Session records

The values that a session carries from page to page and sends with every call.

* `Record`: a plain value; nothing in it is checked.
* `Record.ofJson`, `Record.toJson`: records as JSON texts.
* `Record.tanBody`, `Record.consentBody`: what the two confirmation requests send.
-/

namespace Teller

/-- The values that a session holds. The TAN is unset until it is typed. -/
structure Record where
  tan : Option String := none
  iban : String := ""
  consentId : String := ""
  paymentId : String := ""
deriving DecidableEq, Repr

namespace Record

open Schema (Shape Fields)

/-- The members of a record in a document. -/
def fields : Fields :=
  .cons ⟨"tan", [], false⟩ (.optional .text) <|
  .cons ⟨"iban", [], false⟩ .text <|
  .cons ⟨"consentId", [], false⟩ .text <|
  .cons ⟨"paymentId", [], false⟩ .text .nil

/-- The shape of a record in a document. -/
def shape : Shape := .object "SessionRecord" fields

/-- The record with the given members; a member that is not given is unset or empty. -/
def ofMembers : fields.Carrier → Record
  | (tan, iban, consentId, paymentId, ()) =>
    { tan := Option.join tan
      iban := Option.getD iban ""
      consentId := Option.getD consentId ""
      paymentId := Option.getD paymentId "" }

/-- Reads a record from a JSON text. -/
def ofJson (text : String) : Except Json.Error Record := ofMembers <$> Json.decode shape text

/-- A record as a JSON value, the unset TAN as null. -/
def toJson (r : Record) : Json.Value :=
  .object [("tan", Json.orNull .text r.tan), ("iban", .text r.iban),
    ("consentId", .text r.consentId), ("paymentId", .text r.paymentId)]

/-- The members that every confirmation sends. -/
def consentMembers (r : Record) : List (String × Json.Value) :=
  [("iban", .text r.iban), ("consentId", .text r.consentId), ("paymentId", .text r.paymentId)]

/-- What the confirmation of a TAN sends. The TAN comes first; an unset one is left out. -/
def tanBody (r : Record) : Json.Value :=
  .object <|
    match r.tan with
    | some tan => ("tanNumber", .text tan) :: r.consentMembers
    | none => r.consentMembers

/-- What the decision on a consent sends; the TAN is not part of it. -/
def consentBody (r : Record) : Json.Value := .object r.consentMembers

end Record

end Teller
