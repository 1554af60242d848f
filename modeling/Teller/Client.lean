import Teller.Endpoints
import Teller.Event
import Teller.Http.Content
import Teller.Payment
import Teller.Record
import Teller.Settings.Basic

/-!
# Calls to a bank

* `Endpoints.ofSettings`: the endpoints that settings name.
* `Order`: a call with what it sends; `Order.request`: its request.
* `CallError`: why a call fails; `CallError.outcome`: how metrics count that.
* `Order.interpret`: what a final answer says.
* `Order.perform`: a call from its request to its result, with everything that it logs.
-/

namespace Teller

open Http (Request Answer Backend)

/-- A call with the record that it sends. -/
inductive Order where
  | tanConfirmation (record : Record)
  | consent (record : Record) (decision : Decision)
  | singlePayments (record : Record)
deriving DecidableEq, Repr

/-- What came of a confirmation. -/
inductive ConfirmationBody where
  | json (value : Json.Value)
  | text (s : String)
  | empty

/-- The answer to a confirmation. -/
structure Confirmation where
  status : Nat
  body : ConfirmationBody

/-- What a call gives. A payment may be unknown to the bank. -/
inductive CallResult where
  | confirmation (c : Confirmation)
  | payment (p : Option Payment)

/-- Why a call fails. -/
inductive CallError where
  | transport (fault : Http.TransportFault)
  /-- The bank answered with a status that is no success. -/
  | status (code : Nat) (body : String)
  /-- The answer is not what it should be. -/
  | decode (call : Call) (error : Json.Error)

/-- The wording of an error. -/
def CallError.message : CallError → String
  | .transport fault => "Transport error: " ++ fault.message
  | .status code body => "Backend returned status " ++ toString code ++ ": " ++ body
  | .decode call error => "Failed to decode " ++ call.label ++ " response: " ++ error.message

/-- How metrics count an error. -/
def CallError.outcome : CallError → Outcome
  | .transport _ => .transport
  | .status _ _ => .status
  | .decode _ _ => .decode

/-- How metrics count a result. -/
def outcomeOf : Except CallError CallResult → Outcome
  | .ok _ => .success
  | .error e => e.outcome

namespace Endpoints

/-- What is logged once the endpoints of settings are known. -/
def ready (e : Endpoints) : Event := .clientReady e.base.text e.confirmation

/-- The endpoints that settings name, with what is logged of them. -/
def ofSettings (s : Settings) : Except EndpointError (Endpoints × List Event) :=
  (ofText s.backend.baseUrl s.backend.confirmationPath).map fun e => (e, [e.ready])

end Endpoints

namespace Order

/-- The call of an order. -/
def call : Order → Call
  | .tanConfirmation _ => .tanConfirmation
  | .consent _ _ => .consent
  | .singlePayments _ => .singlePayments

/-- Where an order goes. -/
def url (e : Endpoints) : Order → Url
  | .tanConfirmation _ => e.tanConfirmation
  | .consent _ d => e.consent d
  | .singlePayments r => e.singlePayment r.paymentId

/-- What an order sends. -/
def body : Order → Option Json.Value
  | .tanConfirmation r => some r.tanBody
  | .consent r _ => some r.consentBody
  | .singlePayments _ => none

/-- What an order does. -/
def method : Order → Http.Method
  | .tanConfirmation _ | .consent _ _ => .post
  | .singlePayments _ => .get

/-- The request of an order. -/
def request (e : Endpoints) (o : Order) : Except Http.TransportFault Request :=
  Request.prepare o.method (o.url e) o.body

/-- A confirmation, from the text of an answer. A blank text says nothing; the header decides
whether any other is JSON. -/
def confirmation (call : Call) (a : Answer) (text : String) : Except CallError CallResult :=
  if Text.allBlank text then .ok (.confirmation ⟨a.status, .empty⟩)
  else if a.mentionsJson then
    match Json.readValue text with
    | .ok v => .ok (.confirmation ⟨a.status, .json v⟩)
    | .error e => .error (.decode call e)
  else .ok (.confirmation ⟨a.status, .text text⟩)

/-- A payment, from the text of an answer. A blank text is no payment; any other is JSON. -/
def payment (call : Call) (text : String) : Except CallError CallResult :=
  if Text.allBlank text then .ok (.payment none)
  else
    match Payment.ofJson text with
    | .ok p => .ok (.payment (some p))
    | .error e => .error (.decode call e)

/-- **What a final answer says.** A body that counts for nothing is not read. -/
def interpret (call : Call) (a : Answer) : Except CallError CallResult :=
  if ¬ Http.isSuccess a.status then .error (.status a.status (a.text?.getD ""))
  else
    match call with
    | .singlePayments =>
      if a.status = 204 then .ok (.payment none)
      else
        match a.text? with
        | some text => payment call text
        | none => .error (.transport .reading)
    | _ =>
      match a.text? with
      | some text => confirmation call a text
      | none => .error (.transport .reading)

/-- A call that is over: its result, what it logged, and the requests that the backend received. -/
structure Performed where
  result : Except CallError CallResult
  log : List Event
  requests : List Request

/-- The exchange of an order. -/
def exchange (backend : Backend) (received : List Request) (e : Endpoints) (o : Order) :
    Http.Exchange :=
  match o.request e with
  | .error fault => ⟨[], .error fault⟩
  | .ok request => Http.fetch backend received request

/-- The result of a call, from its final answer. -/
def resultOf (call : Call) :
    Except Http.TransportFault (Url × Answer) → Except CallError CallResult
  | .error fault => .error (.transport fault)
  | .ok (_, a) => interpret call a

/-- What is logged of an answer. -/
def answerLog : Except Http.TransportFault (Url × Answer) → List Event
  | .error _ => []
  | .ok (url, a) => [.responded url.text a.status]

/-- What is logged of a result. -/
def resultLog (call : Call) : Except CallError CallResult → List Event
  | .error e => [.failed call e.message]
  | .ok _ => []

/-- **A call from its request to its result.** -/
def perform (backend : Backend) (received : List Request) (e : Endpoints) (o : Order) :
    Performed :=
  let x := o.exchange backend received e
  let result := resultOf o.call x.final
  ⟨result, .sending o.call :: answerLog x.final ++ resultLog o.call result, x.requests⟩

end Order

end Teller
