import Teller.Payment
import Teller.Proofs.Json.Decode
import Teller.Record
import Teller.Settings.Basic

/-!
# Documents are read back

A payment, a record or the settings can be written as a JSON text and read again. What is read is
what was written, whatever is set in it and whatever its strings are.

* `Payment.members` and its like: what a document gives for each member of its shape.
* `Payment.standsFor` and its like: the JSON value of a document stands for these.
* `documents_read_back`: the main result, for both ways of writing.
-/

namespace Teller

open Schema (Shape Timestamp)
open Json (StandsFor Spells)

variable {levels : Nat}

/-! ## Payments -/

theorem standsFor_timestampJson (t : Timestamp) :
    StandsFor levels .timestamp t (timestampJson t) := by
  cases t with
  | millis n => exact .millis n
  | text s => exact .textTimestamp s

theorem timestampJson_ne_null (t : Timestamp) : timestampJson t ≠ .null := by
  cases t <;> nofun

theorem standsFor_unsetTimestamp (o : Option Timestamp) :
    StandsFor levels (.optional .timestamp) o (Json.orNull timestampJson o) :=
  @StandsFor.orNull_self _ .timestamp _ standsFor_timestampJson timestampJson_ne_null o

namespace AccountReference

/-- The members that an account reference gives. -/
def members (a : AccountReference) : fields.Carrier :=
  (some a.accountId, some a.iban, some a.bban, some a.pan, some a.maskedPan, some a.msisdn,
    some a.currency, ())

theorem ofMembers_members (a : AccountReference) : ofMembers a.members = a := rfl

theorem standsFor (a : AccountReference) : StandsFor (levels + 1) shape a.members a.toJson :=
  .object rfl <| .cons (.unsetText a.accountId) <| .cons (.unsetText a.iban) <|
    .cons (.unsetText a.bban) <| .cons (.unsetText a.pan) <| .cons (.unsetText a.maskedPan) <|
    .cons (.unsetText a.msisdn) <| .cons (.unsetText a.currency) .nil

end AccountReference

namespace Amount

/-- The members that an amount gives. -/
def members (a : Amount) : fields.Carrier := (some a.currency, some a.content, ())

theorem ofMembers_members (a : Amount) : ofMembers a.members = a := rfl

theorem standsFor (a : Amount) : StandsFor (levels + 1) shape a.members a.toJson :=
  .object rfl <| .cons (.text a.currency) <| .cons (.text a.content) .nil

end Amount

namespace Address

/-- The members that an address gives. -/
def members (a : Address) : fields.Carrier :=
  (some a.street, some a.buildingNumber, some a.city, some a.postalCode, some a.country, ())

theorem ofMembers_members (a : Address) : ofMembers a.members = a := rfl

theorem standsFor (a : Address) : StandsFor (levels + 1) shape a.members a.toJson :=
  .object rfl <| .cons (.unsetText a.street) <| .cons (.unsetText a.buildingNumber) <|
    .cons (.unsetText a.city) <| .cons (.unsetText a.postalCode) <|
    .cons (.unsetText a.country) .nil

end Address

namespace Remittance

/-- The members that remittance information gives. -/
def members (r : Remittance) : fields.Carrier :=
  (some r.reference, some r.referenceType, some r.referenceIssuer, ())

theorem ofMembers_members (r : Remittance) : ofMembers r.members = r := rfl

theorem standsFor (r : Remittance) : StandsFor (levels + 1) shape r.members r.toJson :=
  .object rfl <| .cons (.unsetText r.reference) <| .cons (.unsetText r.referenceType) <|
    .cons (.unsetText r.referenceIssuer) .nil

end Remittance

/-- A part of a document that is read back is read back where it may be unset. -/
theorem map_ofMembers_members {α β : Type} {ofMembers : β → α} {members : α → β}
    (h : ∀ a, ofMembers (members a) = a) (o : Option α) :
    (o.map members).map ofMembers = o := by
  cases o with
  | none => rfl
  | some a => exact congrArg some (h a)

namespace Payment

/-- The members that a payment gives. -/
def members (p : Payment) : fields.Carrier :=
  (some p.endToEndIdentification, some (p.debtorAccount.map AccountReference.members),
    some p.ultimateDebtor, some (p.instructedAmount.map Amount.members),
    some (p.creditorAccount.map AccountReference.members), some p.creditorAgent,
    some p.creditorName, some (p.creditorAddress.map Address.members), some p.ultimateCreditor,
    some p.purposeCode, some p.remittanceInformationUnstructured,
    some (p.remittanceInformationStructured.map Remittance.members),
    some p.requestedExecutionDate, some p.requestedExecutionTime, ())

theorem ofMembers_members (p : Payment) : ofMembers p.members = p := by
  show ({ p with
    debtorAccount := (p.debtorAccount.map AccountReference.members).map AccountReference.ofMembers
    instructedAmount := (p.instructedAmount.map Amount.members).map Amount.ofMembers
    creditorAccount :=
      (p.creditorAccount.map AccountReference.members).map AccountReference.ofMembers
    creditorAddress := (p.creditorAddress.map Address.members).map Address.ofMembers
    remittanceInformationStructured :=
      (p.remittanceInformationStructured.map Remittance.members).map Remittance.ofMembers } :
        Payment) = p
  rw [map_ofMembers_members AccountReference.ofMembers_members,
    map_ofMembers_members Amount.ofMembers_members,
    map_ofMembers_members AccountReference.ofMembers_members,
    map_ofMembers_members Address.ofMembers_members,
    map_ofMembers_members Remittance.ofMembers_members]

theorem standsFor (p : Payment) : StandsFor (levels + 2) shape p.members p.toJson :=
  .object rfl <| .cons (.unsetText p.endToEndIdentification) <|
    .cons (.orNull AccountReference.standsFor (fun _ => nofun) p.debtorAccount) <|
    .cons (.unsetText p.ultimateDebtor) <|
    .cons (.orNull Amount.standsFor (fun _ => nofun) p.instructedAmount) <|
    .cons (.orNull AccountReference.standsFor (fun _ => nofun) p.creditorAccount) <|
    .cons (.unsetText p.creditorAgent) <| .cons (.unsetText p.creditorName) <|
    .cons (.orNull Address.standsFor (fun _ => nofun) p.creditorAddress) <|
    .cons (.unsetText p.ultimateCreditor) <| .cons (.unsetText p.purposeCode) <|
    .cons (.unsetText p.remittanceInformationUnstructured) <|
    .cons (.orNull Remittance.standsFor (fun _ => nofun) p.remittanceInformationStructured) <|
    .cons (standsFor_unsetTimestamp p.requestedExecutionDate) <|
    .cons (standsFor_unsetTimestamp p.requestedExecutionTime) .nil

/-- Every text of a payment is read as that payment. -/
theorem ofJson_spells (p : Payment) {cs : List Char} (h : Spells p.toJson cs) :
    ofJson (String.ofList cs) = .ok p := by
  have hstands : StandsFor 2 shape p.members p.toJson := p.standsFor
  rw [ofJson, hstands.decode (by decide) h]
  exact congrArg Except.ok p.ofMembers_members

end Payment

/-! ## Records -/

namespace Record

/-- The members that a record gives. -/
def members (r : Record) : fields.Carrier :=
  (some r.tan, some r.iban, some r.consentId, some r.paymentId, ())

theorem ofMembers_members (r : Record) : ofMembers r.members = r := rfl

theorem standsFor (r : Record) : StandsFor (levels + 1) shape r.members r.toJson :=
  .object rfl <| .cons (.unsetText r.tan) <| .cons (.text r.iban) <| .cons (.text r.consentId) <|
    .cons (.text r.paymentId) .nil

/-- Every text of a record is read as that record. -/
theorem ofJson_spells (r : Record) {cs : List Char} (h : Spells r.toJson cs) :
    ofJson (String.ofList cs) = .ok r := by
  have hstands : StandsFor 1 shape r.members r.toJson := r.standsFor
  rw [ofJson, hstands.decode (by decide) h]
  exact congrArg Except.ok r.ofMembers_members

end Record

/-! ## Settings -/

namespace ConfirmationPath

/-- The place of the pages among the words. -/
def index : ConfirmationPath → Fin words.length
  | .payment => ⟨0, by decide⟩
  | .view => ⟨1, by decide⟩

theorem ofIndex_index (p : ConfirmationPath) : ofIndex p.index = p := by cases p <;> rfl

theorem standsFor (p : ConfirmationPath) : StandsFor levels shape p.index p.toJson :=
  .word (by cases p <;> decide)

end ConfirmationPath

namespace Settings

namespace Backend

/-- The members that the section gives. -/
def members (s : Backend) : fields.Carrier :=
  (some s.baseUrl, some s.confirmationPath.index, ())

theorem ofMembers_members (s : Backend) : ofMembers s.members = s := by
  show ({ s with confirmationPath := .ofIndex s.confirmationPath.index } : Backend) = s
  rw [ConfirmationPath.ofIndex_index]

theorem standsFor (s : Backend) : StandsFor (levels + 1) shape s.members s.toJson :=
  .object rfl <| .cons (.text s.baseUrl) <| .cons s.confirmationPath.standsFor .nil

end Backend

namespace Timeouts

/-- The members that the section gives. -/
def members (s : Timeouts) : fields.Carrier := (some s.connectSecs, some s.requestSecs, ())

theorem standsFor (s : Timeouts) : StandsFor (levels + 1) shape s.members s.toJson :=
  .object rfl <| .cons (.count "u64" s.connectSecs) <| .cons (.count "u64" s.requestSecs) .nil

end Timeouts

namespace Sessions

/-- The members that the section gives. -/
def members (s : Sessions) : fields.Carrier := (some s.maxSessions, ())

theorem standsFor (s : Sessions) : StandsFor (levels + 1) shape s.members s.toJson :=
  .object rfl <| .cons (.count "usize" s.maxSessions) .nil

end Sessions

namespace Observability

/-- The members that the section gives. -/
def members (s : Observability) : fields.Carrier := (some s.logLevel, some s.json, ())

theorem standsFor (s : Observability) : StandsFor (levels + 1) shape s.members s.toJson :=
  .object rfl <| .cons (.text s.logLevel) <| .cons (.flag s.json) .nil

end Observability

/-- The sections that settings give. -/
def members (s : Settings) : fields.Carrier :=
  (some s.backend.members, some s.timeouts.members, some s.sessions.members,
    some s.observability.members, ())

theorem ofMembers_members (s : Settings) : ofMembers s.members = s := by
  show ({ s with backend := .ofMembers s.backend.members } : Settings) = s
  rw [Backend.ofMembers_members]

theorem standsFor (s : Settings) : StandsFor (levels + 2) shape s.members s.toJson :=
  .object rfl <| .cons s.backend.standsFor <| .cons s.timeouts.standsFor <|
    .cons s.sessions.standsFor <| .cons s.observability.standsFor .nil

/-- Every text of settings is read as those settings. -/
theorem ofJson_spells (s : Settings) {cs : List Char} (h : Spells s.toJson cs) :
    ofJson (String.ofList cs) = .ok s := by
  have hstands : StandsFor 2 shape s.members s.toJson := s.standsFor
  rw [ofJson, hstands.decode (by decide) h]
  exact congrArg Except.ok s.ofMembers_members

end Settings

/-! ## The result -/

/-- **Documents are read back.** What is read from either text of a payment, of a record or of
settings is what was written. -/
theorem documents_read_back :
    (∀ p : Payment, Payment.ofJson p.toJson.compact = .ok p ∧
      Payment.ofJson p.toJson.indented = .ok p) ∧
    (∀ r : Record, Record.ofJson r.toJson.compact = .ok r ∧
      Record.ofJson r.toJson.indented = .ok r) ∧
    ∀ s : Settings, Settings.ofJson s.toJson.compact = .ok s ∧
      Settings.ofJson s.toJson.indented = .ok s :=
  ⟨fun p => ⟨p.ofJson_spells (Json.compact_spells _), p.ofJson_spells (Json.indented_spells 0 _)⟩,
    fun r => ⟨r.ofJson_spells (Json.compact_spells _), r.ofJson_spells (Json.indented_spells 0 _)⟩,
    fun s => ⟨s.ofJson_spells (Json.compact_spells _), s.ofJson_spells (Json.indented_spells 0 _)⟩⟩

end Teller
