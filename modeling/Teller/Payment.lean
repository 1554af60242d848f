import Teller.Json.Decode

/-!
# Payments

A single payment as the bank stores it. The bank writes unset members as null, so nearly every
member may be unset.

* `AccountReference`, `Amount`, `Address`, `Remittance`: the parts of a payment.
* `Payment`: the whole.
* `Payment.ofJson`, `Payment.toJson`: payments as JSON texts.
-/

namespace Teller

open Schema (Shape Fields Timestamp)
open Json (orNull)

/-- An account, by one of its identifiers. -/
structure AccountReference where
  accountId : Option String := none
  iban : Option String := none
  bban : Option String := none
  pan : Option String := none
  maskedPan : Option String := none
  msisdn : Option String := none
  /-- A currency code of three letters. -/
  currency : Option String := none
deriving DecidableEq, Repr

/-- A sum of money; `content` is the decimal text that the bank sends. -/
structure Amount where
  currency : String
  content : String
deriving DecidableEq, Repr

/-- A postal address. -/
structure Address where
  street : Option String := none
  buildingNumber : Option String := none
  city : Option String := none
  postalCode : Option String := none
  country : Option String := none
deriving DecidableEq, Repr

/-- Structured remittance information. -/
structure Remittance where
  reference : Option String := none
  referenceType : Option String := none
  referenceIssuer : Option String := none
deriving DecidableEq, Repr

/-- A single payment. -/
structure Payment where
  endToEndIdentification : Option String := none
  debtorAccount : Option AccountReference := none
  ultimateDebtor : Option String := none
  instructedAmount : Option Amount := none
  creditorAccount : Option AccountReference := none
  creditorAgent : Option String := none
  creditorName : Option String := none
  creditorAddress : Option Address := none
  ultimateCreditor : Option String := none
  purposeCode : Option String := none
  remittanceInformationUnstructured : Option String := none
  remittanceInformationStructured : Option Remittance := none
  requestedExecutionDate : Option Timestamp := none
  requestedExecutionTime : Option Timestamp := none
deriving DecidableEq, Repr

namespace AccountReference

/-- The members of an account reference; `id` also stands for the account id. -/
def fields : Fields :=
  .cons ⟨"accountId", ["id"], false⟩ (.optional .text) <|
  Fields.unset "iban" .text <| Fields.unset "bban" .text <| Fields.unset "pan" .text <|
  Fields.unset "maskedPan" .text <| Fields.unset "msisdn" .text <|
  Fields.unset "currency" .text .nil

/-- The shape of an account reference. -/
def shape : Shape := .object "AccountReference" fields

/-- The account reference with the given members. -/
def ofMembers : fields.Carrier → AccountReference
  | (accountId, iban, bban, pan, maskedPan, msisdn, currency, ()) =>
    ⟨Option.join accountId, Option.join iban, Option.join bban, Option.join pan,
      Option.join maskedPan, Option.join msisdn, Option.join currency⟩

/-- An account reference as a JSON value. -/
def toJson (a : AccountReference) : Json.Value :=
  .object [("accountId", orNull .text a.accountId), ("iban", orNull .text a.iban),
    ("bban", orNull .text a.bban), ("pan", orNull .text a.pan),
    ("maskedPan", orNull .text a.maskedPan), ("msisdn", orNull .text a.msisdn),
    ("currency", orNull .text a.currency)]

end AccountReference

namespace Amount

/-- The members of an amount; both must be given. -/
def fields : Fields :=
  .cons ⟨"currency", [], true⟩ .text <| .cons ⟨"content", [], true⟩ .text .nil

/-- The shape of an amount. -/
def shape : Shape := .object "Amount" fields

/-- The amount with the given members. -/
def ofMembers : fields.Carrier → Amount
  | (currency, content, ()) => ⟨Option.getD currency "", Option.getD content ""⟩

/-- An amount as a JSON value. -/
def toJson (a : Amount) : Json.Value :=
  .object [("currency", .text a.currency), ("content", .text a.content)]

end Amount

namespace Address

/-- The members of an address. -/
def fields : Fields :=
  Fields.unset "street" .text <| Fields.unset "buildingNumber" .text <|
  Fields.unset "city" .text <| Fields.unset "postalCode" .text <|
  Fields.unset "country" .text .nil

/-- The shape of an address. -/
def shape : Shape := .object "Address" fields

/-- The address with the given members. -/
def ofMembers : fields.Carrier → Address
  | (street, buildingNumber, city, postalCode, country, ()) =>
    ⟨Option.join street, Option.join buildingNumber, Option.join city, Option.join postalCode,
      Option.join country⟩

/-- An address as a JSON value. -/
def toJson (a : Address) : Json.Value :=
  .object [("street", orNull .text a.street), ("buildingNumber", orNull .text a.buildingNumber),
    ("city", orNull .text a.city), ("postalCode", orNull .text a.postalCode),
    ("country", orNull .text a.country)]

end Address

namespace Remittance

/-- The members of structured remittance information. -/
def fields : Fields :=
  Fields.unset "reference" .text <| Fields.unset "referenceType" .text <|
  Fields.unset "referenceIssuer" .text .nil

/-- The shape of structured remittance information. -/
def shape : Shape := .object "Remittance" fields

/-- The remittance information with the given members. -/
def ofMembers : fields.Carrier → Remittance
  | (reference, referenceType, referenceIssuer, ()) =>
    ⟨Option.join reference, Option.join referenceType, Option.join referenceIssuer⟩

/-- Remittance information as a JSON value. -/
def toJson (r : Remittance) : Json.Value :=
  .object [("reference", orNull .text r.reference), ("referenceType", orNull .text r.referenceType),
    ("referenceIssuer", orNull .text r.referenceIssuer)]

end Remittance

/-- A moment as a JSON value: a number or a string. -/
def timestampJson : Timestamp → Json.Value
  | .millis n => .number (.integer n.toInt)
  | .text s => .text s

namespace Payment

/-- The members of a payment. -/
def fields : Fields :=
  Fields.unset "endToEndIdentification" .text <|
  Fields.unset "debtorAccount" AccountReference.shape <|
  Fields.unset "ultimateDebtor" .text <|
  Fields.unset "instructedAmount" Amount.shape <|
  Fields.unset "creditorAccount" AccountReference.shape <|
  Fields.unset "creditorAgent" .text <|
  Fields.unset "creditorName" .text <|
  Fields.unset "creditorAddress" Address.shape <|
  Fields.unset "ultimateCreditor" .text <|
  Fields.unset "purposeCode" .text <|
  Fields.unset "remittanceInformationUnstructured" .text <|
  Fields.unset "remittanceInformationStructured" Remittance.shape <|
  Fields.unset "requestedExecutionDate" .timestamp <|
  Fields.unset "requestedExecutionTime" .timestamp .nil

/-- The shape of a payment. -/
def shape : Shape := .object "SinglePayments" fields

/-- The payment with the given members. -/
def ofMembers : fields.Carrier → Payment
  | (endToEnd, debtor, ultimateDebtor, amount, creditor, agent, name, address, ultimateCreditor,
      purpose, unstructured, structured, date, time, ()) =>
    { endToEndIdentification := Option.join endToEnd
      debtorAccount := (Option.join debtor).map AccountReference.ofMembers
      ultimateDebtor := Option.join ultimateDebtor
      instructedAmount := (Option.join amount).map Amount.ofMembers
      creditorAccount := (Option.join creditor).map AccountReference.ofMembers
      creditorAgent := Option.join agent
      creditorName := Option.join name
      creditorAddress := (Option.join address).map Address.ofMembers
      ultimateCreditor := Option.join ultimateCreditor
      purposeCode := Option.join purpose
      remittanceInformationUnstructured := Option.join unstructured
      remittanceInformationStructured := (Option.join structured).map Remittance.ofMembers
      requestedExecutionDate := Option.join date
      requestedExecutionTime := Option.join time }

/-- Reads a payment from a JSON text. -/
def ofJson (text : String) : Except Json.Error Payment := ofMembers <$> Json.decode shape text

/-- A payment as a JSON value, every unset member as null. -/
def toJson (p : Payment) : Json.Value :=
  .object [
    ("endToEndIdentification", orNull .text p.endToEndIdentification),
    ("debtorAccount", orNull AccountReference.toJson p.debtorAccount),
    ("ultimateDebtor", orNull .text p.ultimateDebtor),
    ("instructedAmount", orNull Amount.toJson p.instructedAmount),
    ("creditorAccount", orNull AccountReference.toJson p.creditorAccount),
    ("creditorAgent", orNull .text p.creditorAgent),
    ("creditorName", orNull .text p.creditorName),
    ("creditorAddress", orNull Address.toJson p.creditorAddress),
    ("ultimateCreditor", orNull .text p.ultimateCreditor),
    ("purposeCode", orNull .text p.purposeCode),
    ("remittanceInformationUnstructured", orNull .text p.remittanceInformationUnstructured),
    ("remittanceInformationStructured", orNull Remittance.toJson p.remittanceInformationStructured),
    ("requestedExecutionDate", orNull timestampJson p.requestedExecutionDate),
    ("requestedExecutionTime", orNull timestampJson p.requestedExecutionTime)]

end Payment

end Teller
