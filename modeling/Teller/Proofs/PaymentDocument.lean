import Teller.Proofs.Ending
import Teller.Proofs.Endpoints
import Teller.Proofs.Json.Declared

/-!
# Payments and their documents

The bank declares which members a payment has. A payment whose document is as declared is read
member by member, and what is absent or null is unset.

* `Payment.ofDoc`: the payment that a document is read as.
* `Payment.ofJson_listless`: which texts are read as payments; `Payment.read_of_declared`: those of
  documents that are as declared.
* `Order.checked_of_answer`: what comes of an answer with such a text.
-/

namespace Teller

open Json (Doc IsText leads_nil leads_comma)
open Schema (Fields Field)

/-! ## Payments of documents -/

/-- The account reference of a document. -/
def AccountReference.ofDoc (d : Doc) : AccountReference where
  accountId := d.value .text ["accountId", "id"]
  iban := d.value .text ["iban"]
  bban := d.value .text ["bban"]
  pan := d.value .text ["pan"]
  maskedPan := d.value .text ["maskedPan"]
  msisdn := d.value .text ["msisdn"]
  currency := d.value .text ["currency"]

/-- The amount of a document that has both members. -/
def Amount.ofDoc (d : Doc) : Amount where
  currency := Option.getD (d.value .text ["currency"]) ""
  content := Option.getD (d.value .text ["content"]) ""

/-- The address of a document. -/
def Address.ofDoc (d : Doc) : Address where
  street := d.value .text ["street"]
  buildingNumber := d.value .text ["buildingNumber"]
  city := d.value .text ["city"]
  postalCode := d.value .text ["postalCode"]
  country := d.value .text ["country"]

/-- The remittance information of a document. -/
def Remittance.ofDoc (d : Doc) : Remittance where
  reference := d.value .text ["reference"]
  referenceType := d.value .text ["referenceType"]
  referenceIssuer := d.value .text ["referenceIssuer"]

/-- **The payment of a document**, member by member. What is absent or null is unset. -/
def Payment.ofDoc (d : Doc) : Payment where
  endToEndIdentification := d.value .text ["endToEndIdentification"]
  debtorAccount := (d.member? ["debtorAccount"]).map AccountReference.ofDoc
  ultimateDebtor := d.value .text ["ultimateDebtor"]
  instructedAmount := (d.member? ["instructedAmount"]).map Amount.ofDoc
  creditorAccount := (d.member? ["creditorAccount"]).map AccountReference.ofDoc
  creditorAgent := d.value .text ["creditorAgent"]
  creditorName := d.value .text ["creditorName"]
  creditorAddress := (d.member? ["creditorAddress"]).map Address.ofDoc
  ultimateCreditor := d.value .text ["ultimateCreditor"]
  purposeCode := d.value .text ["purposeCode"]
  remittanceInformationUnstructured := d.value .text ["remittanceInformationUnstructured"]
  remittanceInformationStructured :=
    (d.member? ["remittanceInformationStructured"]).map Remittance.ofDoc
  requestedExecutionDate := d.value .timestamp ["requestedExecutionDate"]
  requestedExecutionTime := d.value .timestamp ["requestedExecutionTime"]

open Json.Doc (join_slot eq_slot map_join_slot)

variable {d : Doc}

theorem AccountReference.ofMembers_of_slots {c : fields.Carrier} (h : d.Slots fields c) :
    ofMembers c = ofDoc d := by
  obtain ⟨h₁, h₂, h₃, h₄, h₅, h₆, h₇, -⟩ := h
  exact (mk.injEq ..).mpr ⟨join_slot h₁, join_slot h₂, join_slot h₃, join_slot h₄, join_slot h₅,
    join_slot h₆, join_slot h₇⟩

theorem Amount.ofMembers_of_slots {c : fields.Carrier} (h : d.Slots fields c) :
    ofMembers c = ofDoc d := by
  obtain ⟨h₁, h₂, -⟩ := h
  exact (mk.injEq ..).mpr ⟨congrArg (Option.getD · "") (eq_slot rfl h₁),
    congrArg (Option.getD · "") (eq_slot rfl h₂)⟩

theorem Address.ofMembers_of_slots {c : fields.Carrier} (h : d.Slots fields c) :
    ofMembers c = ofDoc d := by
  obtain ⟨h₁, h₂, h₃, h₄, h₅, -⟩ := h
  exact (mk.injEq ..).mpr
    ⟨join_slot h₁, join_slot h₂, join_slot h₃, join_slot h₄, join_slot h₅⟩

theorem Remittance.ofMembers_of_slots {c : fields.Carrier} (h : d.Slots fields c) :
    ofMembers c = ofDoc d := by
  obtain ⟨h₁, h₂, h₃, -⟩ := h
  exact (mk.injEq ..).mpr ⟨join_slot h₁, join_slot h₂, join_slot h₃⟩

namespace Payment

theorem ofMembers_of_slots (hk : d.Declared shape) {c : fields.Carrier} (h : d.Slots fields c) :
    ofMembers c = ofDoc d := by
  obtain ⟨h₁, h₂, h₃, h₄, h₅, h₆, h₇, h₈, h₉, h₁₀, h₁₁, h₁₂, h₁₃, h₁₄, -⟩ := h
  obtain ⟨-, hdebtor, -, hamount, hcreditor, -, -, haddress, -, -, -, hremittance, -⟩ := hk.2
  exact (mk.injEq ..).mpr ⟨join_slot h₁,
    map_join_slot AccountReference.ofMembers_of_slots hdebtor h₂, join_slot h₃,
    map_join_slot Amount.ofMembers_of_slots hamount h₄,
    map_join_slot AccountReference.ofMembers_of_slots hcreditor h₅, join_slot h₆, join_slot h₇,
    map_join_slot Address.ofMembers_of_slots haddress h₈, join_slot h₉, join_slot h₁₀,
    join_slot h₁₁, map_join_slot Remittance.ofMembers_of_slots hremittance h₁₂, join_slot h₁₃,
    join_slot h₁₄⟩

theorem isPlain_shape : shape.isPlain = true := by decide

theorem levels_shape : shape.levels < Json.depthLimit := by decide

variable {text : String}

/-- A text is read as a payment if its document is decoded. -/
theorem ofJson_eq_ok_iff {p : Payment} : ofJson text = .ok p ↔
    ∃ d c, IsText d text ∧ Doc.as? shape d = some c ∧ ofMembers c = p := by
  constructor
  · intro h
    obtain ⟨c, hc, hp⟩ := Json.ok_of_map h
    obtain ⟨d, hd, hdc⟩ := (Json.decode_iff isPlain_shape levels_shape).1 hc
    exact ⟨d, c, hd, hdc, hp⟩
  · rintro ⟨d, c, hd, hdc, rfl⟩
    rw [ofJson, (Json.decode_iff isPlain_shape levels_shape).2 ⟨d, hd, hdc⟩]
    rfl

/-- **A payment in which no array stands for an object** is read if its document is as declared, all
of it can be read and nothing is missing, and then as its document says. -/
theorem ofJson_listless (ht : IsText d text) (hl : d.Listless shape) (p : Payment) :
    ofJson text = .ok p ↔ d.Declared shape ∧ d.Legible shape ∧ d.Full shape ∧ p = ofDoc d := by
  have hdecode := Json.decode_of_isText isPlain_shape levels_shape ht
  have haccept := @Doc.isSome_as?_iff _ d isPlain_shape
  constructor
  · intro h
    obtain ⟨c, hc, rfl⟩ := Json.ok_of_map h
    have hc : d.as? shape = some c := by
      rw [← hdecode, hc]
      rfl
    obtain ⟨hk, hlegible, hfull⟩ := haccept.1 ⟨Option.isSome_of_eq_some hc, hl⟩
    exact ⟨hk, hlegible, hfull, ofMembers_of_slots hk (Doc.slots_of_as? hk hc)⟩
  · rintro ⟨hk, hlegible, hfull, rfl⟩
    obtain ⟨c, hc⟩ := Option.isSome_iff_exists.1 (haccept.2 ⟨hk, hlegible, hfull⟩).1
    rw [ofJson, Json.ok_of_toOption (hdecode.trans hc)]
    exact congrArg Except.ok (ofMembers_of_slots hk (Doc.slots_of_as? hk hc))

/-- An amount must have both of its members. Nothing else must be given. -/
theorem full_iff (hk : d.Declared shape) : d.Full shape ↔
    ∀ amount, d.member? ["instructedAmount"] = some amount →
      amount.member? ["currency"] ≠ none ∧ amount.member? ["content"] ≠ none := by
  have hamounts : d.Full shape ↔
      ∀ m ∈ Doc.under ["instructedAmount"] d.members, m = .null ∨ m.Full Amount.shape := by
    simp [Doc.Full, shape, fields, AccountReference.shape, AccountReference.fields, Address.shape,
      Address.fields, Remittance.shape, Remittance.fields, Fields.unset, Doc.Each,
      Doc.EachMember, Doc.HasAll, Doc.Present, Schema.Shape.isNullable, Field.names]
  have hone : (Doc.under ["instructedAmount"] d.members).length ≤ 1 :=
    hk.1.2 ⟨"instructedAmount", [], false⟩ (by decide)
  obtain ⟨-, -, -, hamount, -⟩ := hk.2
  rw [hamounts, Doc.forall_member?_iff hone]
  refine forall₂_congr fun m hm => ?_
  have hnull := Doc.ne_null_of_member? hm
  have hk : m.Declared Amount.shape :=
    ((hamount m (Doc.mem_of_member? hm)).resolve_left hnull).resolve_left hnull
  have hcurrency : (Doc.under ["currency"] m.members).length ≤ 1 :=
    hk.1.2 ⟨"currency", [], true⟩ (by decide)
  have hcontent : (Doc.under ["content"] m.members).length ≤ 1 :=
    hk.1.2 ⟨"content", [], true⟩ (by decide)
  rw [Doc.member?_ne_none_iff hcurrency, Doc.member?_ne_none_iff hcontent]
  simp [Doc.Full, Amount.shape, Amount.fields, Doc.Each, Doc.EachMember, Doc.HasAll, Doc.Present,
    Schema.Shape.isNullable, Field.names, and_assoc]

/-- **Payments with unset members.** If the document of a text is as declared, whatever is absent or
null in it, then it is read, and what is absent or null is unset; except that an amount must have
both of its members, and that all texts and numbers must be ones that can be read. -/
theorem read_of_declared (ht : IsText d text) (hk : d.Declared shape) (p : Payment) :
    ofJson text = .ok p ↔ d.Legible shape ∧
      (∀ amount, d.member? ["instructedAmount"] = some amount →
        amount.member? ["currency"] ≠ none ∧ amount.member? ["content"] ≠ none) ∧
      p = ofDoc d := by
  rw [ofJson_listless ht hk.listless, full_iff hk, and_iff_right hk]

/-- A document in which most members are absent and others null. -/
def sparse : Doc := .object [(some "debtorAccount", .object [(some "id", .text (some "A1")),
  (some "iban", .null)]), (some "instructedAmount", .null)]

/-- Its text. -/
def sparseText : String :=
  "\x7b\"debtorAccount\":\x7b\"id\":\"A1\",\"iban\":null\x7d,\"instructedAmount\":null\x7d"

/-- The payment of that. -/
def sparsePayment : Payment := { debtorAccount := some { accountId := some "A1" } }

theorem isText_sparse : IsText sparse sparseText := by
  have haccount := Json.WritesMembers.plain "id" leads_nil (by decide)
    (Json.Writes.plain "A1" (by decide))
    (.plain "iban" leads_comma (by decide) .null (.close Json.space_nil))
  have hmembers := Json.WritesMembers.plain "debtorAccount" leads_nil (by decide)
    (.object haccount)
    (.plain "instructedAmount" leads_comma (by decide) .null (.close Json.space_nil))
  exact ⟨[], _, [], Json.space_nil, .object hmembers, Json.space_nil, by rfl⟩

theorem declared_sparse : sparse.Declared shape := by
  simp [sparse, Doc.Declared, Doc.Each, Doc.EachMember, Doc.members, Doc.OfKind, Doc.under_nil,
    Doc.under_cons, shape, fields, AccountReference.shape, AccountReference.fields, Fields.unset,
    Fields.heads, Field.names]

theorem read_sparse :
    IsText sparse sparseText ∧ sparse.Declared shape ∧
      (ofJson sparseText = .ok sparsePayment ↔ sparse.Legible shape ∧
        (∀ amount, sparse.member? ["instructedAmount"] = some amount →
          amount.member? ["currency"] ≠ none ∧ amount.member? ["content"] ≠ none) ∧
        sparsePayment = ofDoc sparse) :=
  ⟨isText_sparse, declared_sparse, read_of_declared isText_sparse declared_sparse _⟩

/-- A document with an amount of which the content is absent. -/
def halfAmount : Doc :=
  .object [(some "instructedAmount", .object [(some "currency", .text (some "EUR"))])]

/-- Its text. -/
def halfAmountText : String := "\x7b\"instructedAmount\":\x7b\"currency\":\"EUR\"\x7d\x7d"

/-- A payment is not read although its document is as declared and all of it can be read. -/
theorem halfAmount_unread :
    IsText halfAmount halfAmountText ∧ halfAmount.Declared shape ∧ halfAmount.Legible shape ∧
      ∀ p, ofJson halfAmountText ≠ .ok p := by
  have hamount := Json.WritesMembers.plain "currency" leads_nil (by decide)
    (Json.Writes.plain "EUR" (by decide)) (.close Json.space_nil)
  have hmembers := Json.WritesMembers.plain "instructedAmount" leads_nil (by decide)
    (.object hamount) (.close Json.space_nil)
  refine ⟨⟨[], _, [], Json.space_nil, .object hmembers, Json.space_nil, by rfl⟩, ?_, ?_, ?_⟩
  · simp [halfAmount, Doc.Declared, Doc.Each, Doc.EachMember, Doc.members, Doc.OfKind,
      Doc.under_nil, Doc.under_cons, shape, fields, Amount.shape, Amount.fields, Fields.unset,
      Fields.heads, Field.names]
  · simp [halfAmount, Doc.Legible, Doc.Each, Doc.EachMember, Doc.members, Doc.Readable,
      Doc.under_nil, Doc.under_cons, shape, fields, Amount.shape, Amount.fields, Fields.unset,
      Field.names]
  · intro p h
    have hnone : (ofJson halfAmountText).toOption = none := by decide +kernel
    rw [h] at hnone
    cases hnone

end Payment

/-! ## Answers -/

/-- **What comes of a text** that the bank sends for a payment. -/
structure Payment.Checked (text : String) (result : Except CallError CallResult) : Prop where
  /-- A payment comes of JSON only, and the document decides which one it is. -/
  json : ∀ p, result = .ok (.payment (some p)) ↔
    ∃ d c, IsText d text ∧ d.as? shape = some c ∧ ofMembers c = p
  /-- Of JSON without an array in place of an object it comes exactly if the document is as
  declared, all of it can be read and nothing is missing. -/
  payment : ∀ d, IsText d text → d.Listless shape → ∀ p,
    result = .ok (.payment (some p)) ↔
      d.Declared shape ∧ d.Legible shape ∧ d.Full shape ∧ p = ofDoc d
  /-- Of anything else comes an error that names the call. -/
  decode : (∀ p, result ≠ .ok (.payment (some p))) →
    ∃ err, result = .error (.decode .singlePayments err)

namespace Order

open Http (Answer Backend Request)

variable {b : Backend} {received : List Request} {e : Endpoints} {record : Record} {url : Url}
  {a : Answer} {text : String}

/-- **Mismatches are refused.** Where the bank answers a request for a payment with a text that is
not blank, the call gives a payment only if the text is JSON as declared, and an error of decoding
otherwise. What the theorem leaves open is JSON in which an array stands for an object. -/
theorem checked_of_answer (h : (singlePayments record).Answered b received e url a)
    (hs : a.Succeeds) (hn : a.status ≠ 204) (ht : a.text? = some text)
    (hb : ¬ Text.allBlank text) :
    Payment.Checked text ((singlePayments record).perform b received e).result := by
  have hresult : ((singlePayments record).perform b received e).result =
      interpret .singlePayments a := by
    show resultOf .singlePayments ((singlePayments record).exchange b received e).final = _
    rw [answered_iff.1 h]
    rfl
  have hread := interpret_reading .singlePayments a
  rw [← hresult] at hread
  have hpayment (p : Payment) :
      ((singlePayments record).perform b received e).result = .ok (.payment (some p)) ↔
        Payment.ofJson text = .ok p := by
    rw [hread.payment_iff]
    constructor
    · rintro ⟨-, -, -, text', ht', -, hp⟩
      rw [ht] at ht'
      cases ht'
      exact hp
    · exact fun hp => ⟨rfl, hs, hn, text, ht, hb, hp⟩
  refine ⟨fun p => ?_, fun d hd hlist p => ?_, fun hno => ?_⟩
  · rw [hpayment, Payment.ofJson_eq_ok_iff]
  · rw [hpayment, Payment.ofJson_listless hd hlist]
  · refine hread.decode_iff.2 ⟨hs, fun _ => hn, text, ht, hb, ?_⟩
    rintro ⟨p, hp⟩
    exact hno p ((hpayment p).2 hp)

/-- A call for a payment. -/
def paid : Order := .singlePayments { paymentId := "p1" }

/-- An answer with a text. -/
def saying (text : String) : Answer := { status := 200, body := Text.Utf8.encode text.toList }

/-- A bank that gives this answer. -/
def bankSaying (text : String) : Backend := .ofList [.answer (saying text)]

theorem checked_sparse :
    paid.Answered (bankSaying Payment.sparseText) [] .small (paid.url .small)
        (saying Payment.sparseText) ∧
      (saying Payment.sparseText).Succeeds ∧ (saying Payment.sparseText).status ≠ 204 ∧
      (saying Payment.sparseText).text? = some Payment.sparseText ∧
      ¬ Text.allBlank Payment.sparseText ∧
      Payment.Checked Payment.sparseText
        (paid.perform (bankSaying Payment.sparseText) [] .small).result := by
  have h : paid.Answered (bankSaying Payment.sparseText) [] .small (paid.url .small)
      (saying Payment.sparseText) := answered_iff.2 (by with_unfolding_all rfl)
  have hs : (saying Payment.sparseText).Succeeds := by simp [Answer.Succeeds, saying]
  have hn : (saying Payment.sparseText).status ≠ 204 := by simp [saying]
  have ht : (saying Payment.sparseText).text? = some Payment.sparseText := by decide +kernel
  have hb : ¬ Text.allBlank Payment.sparseText := by decide +kernel
  exact ⟨h, hs, hn, ht, hb, checked_of_answer h hs hn ht hb⟩

/-- An empty array is taken for a payment, although it is no object. -/
theorem empty_array_paid :
    (saying "[]").text? = some "[]" ∧ (∀ d, IsText d "[]" → ¬ d.Declared Payment.shape) ∧
      (paid.perform (bankSaying "[]") [] .small).result = .ok (.payment (some {})) := by
  refine ⟨by decide +kernel, fun d hd hk => ?_, by with_unfolding_all rfl⟩
  obtain ⟨ms, rfl⟩ := hk.1.1
  obtain ⟨gap, cs, gap', -, hcs, -, htext⟩ := hd
  cases hcs with
  | object h =>
    have hbrace : '\x7b' ∈ "[]".toList := by
      rw [htext]
      simp
    revert hbrace
    decide

end Order

end Teller
