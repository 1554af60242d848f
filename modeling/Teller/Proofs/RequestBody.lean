import Mathlib.Data.List.Basic
import Teller.Proofs.Client
import Teller.Proofs.Json.Tree

/-!
# What confirmations say

A bank knows of a record what the body of a confirmation says, and nothing else. So a body is JSON
that says what the record holds, whatever characters its strings have, and records of which the bank
is to be told different things have different bodies.

* `Json.Says`: a text is JSON of an object that has some texts for members, and nothing else.
* `Record.tanTexts`, `Record.consentTexts`: what the two confirmations say of a record.
* `Order.Sends`: what a bank receives of an order.
* `bodies_say_records`: the main result.
-/

namespace Teller

/-! ## Objects of texts -/

namespace Json

/-- The document with some texts for members, in this order. -/
def Doc.ofTexts (ms : List (String × String)) : Doc :=
  .object (ms.map fun m => (some m.1, .text (some m.2)))

/-- The value with these members. -/
def Value.ofTexts (ms : List (String × String)) : Value :=
  .object (ms.map fun m => (m.1, .text m.2))

/-- **A text says some texts**: it is JSON of the object with these members, in this order, and of
nothing else. -/
def Says (text : String) (ms : List (String × String)) : Prop :=
  ∀ d, IsText d text ↔ d = .ofTexts ms

theorem Doc.ofTexts_injective : Function.Injective ofTexts := by
  intro ms ms' h
  refine List.map_injective_iff.2 ?_ (Doc.object.inj h)
  rintro ⟨k, s⟩ ⟨k', s'⟩ h
  cases h
  rfl

theorem writesMembers_compact (first : Bool) (ms : List (String × String)) :
    WritesMembers first (ms.map fun m => (some m.1, .text (some m.2)))
      (compactMembers first (ms.map fun m => (m.1, .text m.2))) := by
  induction ms generalizing first with
  | nil => exact .close space_nil
  | cons m ms ih =>
    obtain ⟨k, s⟩ := m
    obtain ⟨ps, hps, hname⟩ := writesParts_escaped k
    have hlead : Leads first (separator first) := by
      cases first with
      | true => exact space_nil
      | false => exact ⟨[], [], space_nil, space_nil, rfl⟩
    have h := WritesMembers.member hlead hps ⟨[], [], space_nil, space_nil, rfl⟩ (.escaped s)
      (ih false)
    rw [hname] at h
    simpa [compactMembers, separator, writeText, Value.compactChars] using h

theorem isText_compact (ms : List (String × String)) :
    IsText (.ofTexts ms) (Value.ofTexts ms).compact := by
  refine ⟨[], _, [], space_nil, .object (writesMembers_compact true ms), space_nil, ?_⟩
  rw [List.nil_append, List.append_nil]
  exact String.toList_ofList

/-- **An object of texts is written so that it is said**, whatever characters are in it. -/
theorem says_compact (ms : List (String × String)) : Says (Value.ofTexts ms).compact ms := by
  intro d
  constructor
  · exact fun h => h.unique (isText_compact ms)
  · rintro rfl
    exact isText_compact ms

/-- A text says one thing at most. -/
theorem Says.unique {text : String} {ms ms' : List (String × String)} (h : Says text ms)
    (h' : Says text ms') : ms = ms' :=
  Doc.ofTexts_injective ((h' _).1 ((h _).2 rfl))

end Json

/-! ## Records -/

namespace Record

/-- What the decision on a consent says. -/
def consentTexts (r : Record) : List (String × String) :=
  [("iban", r.iban), ("consentId", r.consentId), ("paymentId", r.paymentId)]

/-- What the confirmation of a TAN says: the TAN first, if it is set, be it empty. -/
def tanTexts (r : Record) : List (String × String) :=
  (r.tan.map fun tan => ("tanNumber", tan)).toList ++ r.consentTexts

theorem consentBody_eq (r : Record) : r.consentBody = .ofTexts r.consentTexts := rfl

theorem tanBody_eq (r : Record) : r.tanBody = .ofTexts r.tanTexts := by
  obtain ⟨_ | tan, iban, consentId, paymentId⟩ := r <;> rfl

theorem consentTexts_eq_iff {r r' : Record} : r.consentTexts = r'.consentTexts ↔
    r.iban = r'.iban ∧ r.consentId = r'.consentId ∧ r.paymentId = r'.paymentId := by
  simp [consentTexts]

/-- What is said of a TAN is all of a record. -/
theorem tanTexts_injective : Function.Injective tanTexts := by
  intro r r' h
  obtain ⟨tan, iban, consentId, paymentId⟩ := r
  obtain ⟨tan', iban', consentId', paymentId'⟩ := r'
  -- With a TAN there are four members, and without one there are three.
  cases tan <;> cases tan' <;> simp [tanTexts, consentTexts] at h ⊢ <;> exact h

end Record

/-! ## What a bank receives -/

open Http (Request Backend)

/-- **What a bank receives of an order** that sends a text. -/
structure Order.Sends (o : Order) (text : String) : Prop where
  /-- The text is the body of the order's request. -/
  request : ∀ e q, o.request e = .ok q →
    q.bodyText = text ∧ q.contentType = some "application/json"
  /-- The bank receives this request first, unless nothing gets there. -/
  first : ∀ b received e q, o.request e = .ok q →
    (o.exchange b received e).requests.head? =
      if b (q :: received) = .unreachable then none else some q
  /-- Whatever follows it has the same text or none. -/
  all : ∀ b received e, ∀ q ∈ (o.exchange b received e).requests, q.body = none ∨ q.bodyText = text

theorem Order.sends_of_body {o : Order} {v : Json.Value} (h : o.body = some v) :
    o.Sends v.compact := by
  have htext {q : Request} (hq : q.body = o.body) : q.bodyText = v.compact := by
    rw [Request.bodyText, hq, h]
    rfl
  refine ⟨fun e q hq => ?_, fun b received e q hq => o.exchange_reached b received hq,
    fun b received e q hq => ?_⟩
  · have hbody := (request_ok hq).2
    refine ⟨htext hbody, ?_⟩
    rw [Request.contentType, hbody, h]
    rfl
  · exact (exchange_body b received e o q hq).imp_right fun hq => htext hq.2

/-- **Bodies say records.** Whatever the strings of a record are, the confirmation of a TAN is JSON
of an object with exactly the TAN, if it is set, and the other three texts, and the decision on a
consent is JSON of exactly these three. Two records have one body for a TAN only if they are the
same, and one for a consent exactly if they agree on what it says. -/
theorem bodies_say_records :
    (∀ r : Record, (Order.tanConfirmation r).Sends r.tanBody.compact ∧
      Json.Says r.tanBody.compact r.tanTexts) ∧
    (∀ (r : Record) (d : Decision), (Order.consent r d).Sends r.consentBody.compact ∧
      Json.Says r.consentBody.compact r.consentTexts) ∧
    (∀ r r' : Record, r.tanBody.compact = r'.tanBody.compact ↔ r = r') ∧
    ∀ r r' : Record, r.consentBody.compact = r'.consentBody.compact ↔
      r.iban = r'.iban ∧ r.consentId = r'.consentId ∧ r.paymentId = r'.paymentId := by
  have htan (r : Record) : Json.Says r.tanBody.compact r.tanTexts := by
    rw [r.tanBody_eq]
    exact Json.says_compact r.tanTexts
  have hconsent (r : Record) : Json.Says r.consentBody.compact r.consentTexts := by
    rw [r.consentBody_eq]
    exact Json.says_compact r.consentTexts
  refine ⟨fun r => ⟨Order.sends_of_body rfl, htan r⟩,
    fun r d => ⟨Order.sends_of_body rfl, hconsent r⟩, fun r r' => ⟨fun h => ?_, ?_⟩,
    fun r r' => ⟨fun h => ?_, fun h => ?_⟩⟩
  · exact Record.tanTexts_injective ((htan r).unique (h ▸ htan r'))
  · rintro rfl
    rfl
  · exact Record.consentTexts_eq_iff.1 ((hconsent r).unique (h ▸ hconsent r'))
  · rw [r.consentBody_eq, r'.consentBody_eq, Record.consentTexts_eq_iff.2 h]

/-- An empty TAN is said, and quotes do not end a text. -/
example : ({ tan := some "", iban := "\",\"" } : Record).tanBody.compact =
    "\x7b\"tanNumber\":\"\",\"iban\":\"\\\",\\\"\",\"consentId\":\"\",\"paymentId\":\"\"\x7d" := by
  decide +kernel

end Teller
