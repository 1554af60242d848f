import Teller.Proofs.Client

/-!
# How calls end

A call ends in one of four ways, and its final answer alone decides in which. Each of them comes
about under an exact condition on that answer.

* `Order.Answered`: the final answer of a call, once all redirects are followed.
* `Reading`: how an answer is read, with one rule for each way out; `interpret_reading`.
* `Ends`: the four ends and their conditions; `ends_of_answer`: they are those of every call.
-/

namespace Teller

open Http (Request Answer Backend)

/-! ## Final answers -/

namespace Http.Answer

variable {a : Answer}

/-- The bank did what it was asked for. -/
def Succeeds (a : Answer) : Prop := 200 ≤ a.status ∧ a.status ≤ 299

/-- The body broke off before its end, where the status lets there be one. -/
def CutShort (a : Answer) : Prop := isBodiless a.status = false ∧ a.complete = false

theorem succeeds_iff : isSuccess a.status = true ↔ a.Succeeds := by
  simp [isSuccess, Succeeds]

theorem text?_eq_none_iff : a.text? = none ↔ a.CutShort := by
  unfold text? CutShort
  cases isBodiless a.status <;> cases a.complete <;> simp

end Http.Answer

namespace Order

variable {b : Backend} {received : List Request} {e : Endpoints} {o : Order} {url : Url}
  {a : Answer}

/-- **The final answer of a call**, and where it comes from: an exchange leads from the request of
the call to it. -/
def Answered (b : Backend) (received : List Request) (e : Endpoints) (o : Order) (url : Url)
    (a : Answer) : Prop :=
  ∃ r requests, o.request e = .ok r ∧
    Http.Exchanges b r.url Http.maxRedirects received r ⟨requests, .ok (url, a)⟩

theorem answered_iff :
    o.Answered b received e url a ↔ (o.exchange b received e).final = .ok (url, a) := by
  unfold exchange
  constructor
  · rintro ⟨r, requests, hr, hx⟩
    rw [hr]
    exact (congrArg Http.Exchange.final hx.eq_follow).symm
  · intro h
    cases hr : o.request e with
    | error fault =>
      rw [hr] at h
      cases h
    | ok r =>
      rw [hr] at h
      have hx := Http.follow_exchanges b r.url Http.maxRedirects received r
      refine ⟨r, (Http.fetch b received r).requests, hr, ?_⟩
      rw [← h]
      exact hx

end Order

/-! ## Reading an answer -/

/-- The body is read. That the bank knows no payment is said by the status alone. -/
def Call.ReadsBody (call : Call) (status : Nat) : Prop := call = .singlePayments → status ≠ 204

/-- A text is what a call asks for. A payment is JSON whatever the header says; a confirmation has
to be JSON only where the header announces that. -/
def Call.Accepts (a : Answer) (text : String) : Call → Prop
  | .singlePayments => ∃ p, Payment.ofJson text = .ok p
  | .tanConfirmation | .consent => a.mentionsJson → ∃ v, Json.readValue text = .ok v

/-- What a confirmation gives of an answer with a text. -/
def ConfirmationBody.Shows (a : Answer) (text : String) : ConfirmationBody → Prop
  | .empty => Text.allBlank text
  | .json v => ¬ Text.allBlank text ∧ a.mentionsJson ∧ Json.readValue text = .ok v
  | .text s => ¬ Text.allBlank text ∧ ¬ a.mentionsJson ∧ s = text

namespace ConfirmationBody

variable {a : Answer} {text : String} {body body' : ConfirmationBody}

/-- An answer gives one thing. -/
theorem Shows.eq (h : body.Shows a text) (h' : body'.Shows a text) : body = body' := by
  cases body <;> cases body' <;> simp_all [Shows]

/-- Whatever says something and is shown is what a confirmation asks for. -/
theorem Shows.accepts {call : Call} (h : body.Shows a text) (hc : call ≠ .singlePayments)
    (hb : ¬ Text.allBlank text) : call.Accepts a text := by
  have hj (hj : a.mentionsJson) : ∃ v, Json.readValue text = .ok v := by
    cases body with
    | empty => exact absurd h hb
    | json v => exact ⟨v, h.2.2⟩
    | text s => exact absurd hj h.2.1
  cases call with
  | singlePayments => exact absurd rfl hc
  | tanConfirmation | consent => exact hj

end ConfirmationBody

/-- **How an answer is read**, with one rule for each way in which a call ends then. -/
inductive Reading (a : Answer) : Call → Except CallError CallResult → Prop
  /-- The bank refuses. Its reasons are kept if they arrived. -/
  | refused {call} (hs : ¬ a.Succeeds) :
      Reading a call (.error (.status a.status (a.text?.getD "")))
  /-- The bank knows no such payment. -/
  | unknown (hs : a.Succeeds) (h : a.status = 204) :
      Reading a .singlePayments (.ok (.payment none))
  /-- The body is needed and does not arrive. -/
  | cut {call} (hs : a.Succeeds) (hr : call.ReadsBody a.status) (ht : a.text? = none) :
      Reading a call (.error (.transport .reading))
  /-- The bank says nothing of the payment. -/
  | noPayment {text} (hs : a.Succeeds) (h : a.status ≠ 204) (ht : a.text? = some text)
      (hb : Text.allBlank text) : Reading a .singlePayments (.ok (.payment none))
  | payment {text p} (hs : a.Succeeds) (h : a.status ≠ 204) (ht : a.text? = some text)
      (hb : ¬ Text.allBlank text) (hp : Payment.ofJson text = .ok p) :
      Reading a .singlePayments (.ok (.payment (some p)))
  | confirmation {call text body} (hc : call ≠ .singlePayments) (hs : a.Succeeds)
      (ht : a.text? = some text) (hb : body.Shows a text) :
      Reading a call (.ok (.confirmation ⟨a.status, body⟩))
  /-- The bank says something else than what was asked for. -/
  | unfit {call text} (err) (hs : a.Succeeds) (hr : call.ReadsBody a.status)
      (ht : a.text? = some text) (hb : ¬ Text.allBlank text) (hn : ¬ call.Accepts a text) :
      Reading a call (.error (.decode call err))

namespace Order

variable {a : Answer} {call : Call} {text : String}

theorem payment_reading (hs : a.Succeeds) (h : a.status ≠ 204) (ht : a.text? = some text) :
    Reading a .singlePayments (payment .singlePayments text) := by
  unfold payment
  split
  · rename_i hb
    exact .noPayment hs h ht hb
  rename_i hb
  split
  · rename_i p hp
    exact .payment hs h ht hb hp
  · rename_i err hp
    refine .unfit err hs (fun _ => h) ht hb ?_
    rintro ⟨p, hp'⟩
    rw [hp] at hp'
    cases hp'

theorem confirmation_reading (hc : call ≠ .singlePayments) (hs : a.Succeeds)
    (ht : a.text? = some text) : Reading a call (confirmation call a text) := by
  unfold confirmation
  split
  · rename_i hb
    exact .confirmation hc hs ht hb
  rename_i hb
  split
  · rename_i hj
    split
    · rename_i v hv
      exact .confirmation hc hs ht ⟨hb, hj, hv⟩
    · rename_i err hv
      refine .unfit err hs (fun h => absurd h hc) ht hb ?_
      intro haccepts
      have hv' : ∃ v, Json.readValue text = .ok v := by
        cases call with
        | singlePayments => exact absurd rfl hc
        | tanConfirmation | consent => exact haccepts hj
      obtain ⟨v, hv'⟩ := hv'
      rw [hv] at hv'
      cases hv'
  · rename_i hj
    exact .confirmation hc hs ht ⟨hb, hj, rfl⟩

/-- What `interpret` makes of an answer follows the rules. -/
theorem interpret_reading (call : Call) (a : Answer) : Reading a call (interpret call a) := by
  unfold interpret
  split
  · rename_i hs
    exact .refused fun h => hs (Http.Answer.succeeds_iff.2 h)
  rename_i hs
  have hs := Http.Answer.succeeds_iff.1 (not_not.1 hs)
  split
  · split
    · rename_i h
      exact .unknown hs h
    rename_i h
    split
    · rename_i text ht
      exact payment_reading hs h ht
    · rename_i ht
      exact .cut hs (fun _ => h) ht
  · rename_i hc
    split
    · rename_i text ht
      exact confirmation_reading hc hs ht
    · rename_i ht
      exact .cut hs (fun h => absurd h hc) ht

end Order

namespace Reading

variable {call : Call} {a : Answer} {result : Except CallError CallResult}

theorem transport_iff (h : Reading a call result) : (∃ fault, result = .error (.transport fault)) ↔
    a.Succeeds ∧ call.ReadsBody a.status ∧ a.CutShort := by
  rw [← Http.Answer.text?_eq_none_iff]
  cases h <;> simp_all [Call.ReadsBody]

theorem status_iff (h : Reading a call result) (code : Nat) (body : String) :
    result = .error (.status code body) ↔
      ¬ a.Succeeds ∧ code = a.status ∧ (a.text? = some body ∨ a.CutShort ∧ body = "") := by
  rw [← Http.Answer.text?_eq_none_iff]
  cases h with
  | refused hs => cases a.text? <;> simp [hs, eq_comm]
  | _ => simp_all

theorem decode_iff (h : Reading a call result) : (∃ err, result = .error (.decode call err)) ↔
    a.Succeeds ∧ call.ReadsBody a.status ∧
      ∃ text, a.text? = some text ∧ ¬ Text.allBlank text ∧ ¬ call.Accepts a text := by
  cases h with
  | confirmation hc hs ht hb =>
    have haccepts := hb.accepts hc
    simp_all
  | _ => simp_all [Call.ReadsBody, Call.Accepts]

theorem success_iff (h : Reading a call result) : (∃ r, result = .ok r) ↔
    a.Succeeds ∧ (call.ReadsBody a.status →
      ∃ text, a.text? = some text ∧ (Text.allBlank text ∨ call.Accepts a text)) := by
  cases h with
  | confirmation hc hs ht hb =>
    have haccepts := hb.accepts hc
    simp_all [Classical.or_iff_not_imp_left]
  | _ => simp_all [Call.ReadsBody, Call.Accepts]

theorem call_of_decode (h : Reading a call result) {c : Call} {err : Json.Error}
    (hd : result = .error (.decode c err)) : c = call := by
  cases h <;> cases hd
  rfl

theorem noPayment_iff (h : Reading a call result) : result = .ok (.payment none) ↔
    call = .singlePayments ∧ a.Succeeds ∧
      (a.status = 204 ∨ ∃ text, a.text? = some text ∧ Text.allBlank text) := by
  cases h <;> simp_all [Call.ReadsBody]

theorem payment_iff (h : Reading a call result) (p : Payment) :
    result = .ok (.payment (some p)) ↔
      call = .singlePayments ∧ a.Succeeds ∧ a.status ≠ 204 ∧
        ∃ text, a.text? = some text ∧ ¬ Text.allBlank text ∧ Payment.ofJson text = .ok p := by
  cases h with
  | unfit err hs hr ht hb hn =>
    refine ⟨fun h => (nomatch h), ?_⟩
    rintro ⟨rfl, -, -, text, ht', -, hp⟩
    rw [ht] at ht'
    cases ht'
    exact absurd ⟨p, hp⟩ hn
  | _ => simp_all

theorem confirmation_iff (h : Reading a call result) (c : Confirmation) :
    result = .ok (.confirmation c) ↔
      call ≠ .singlePayments ∧ a.Succeeds ∧ c.status = a.status ∧
        ∃ text, a.text? = some text ∧ c.body.Shows a text := by
  obtain ⟨status, body⟩ := c
  cases h with
  | confirmation hc hs ht hb =>
    simp only [Except.ok.injEq, CallResult.confirmation.injEq, Confirmation.mk.injEq]
    -- The text can be shown in one way only.
    constructor
    · rintro ⟨rfl, rfl⟩
      exact ⟨hc, hs, rfl, _, ht, hb⟩
    · rintro ⟨-, -, rfl, text, ht', hb'⟩
      rw [ht] at ht'
      cases ht'
      exact ⟨rfl, hb.eq hb'⟩
  | unfit err hs hr ht hb hn =>
    refine ⟨fun h => (nomatch h), ?_⟩
    rintro ⟨hc, -, -, text, ht', hb'⟩
    rw [ht] at ht'
    cases ht'
    exact absurd (hb'.accepts hc hb) hn
  | _ => simp_all

end Reading

/-- The result of a call is how its final answer is read. -/
theorem Order.reading_of_answered {b : Backend} {received : List Request} {e : Endpoints}
    {o : Order} {url : Url} {a : Answer} (h : o.Answered b received e url a) :
    Reading a o.call (o.perform b received e).result := by
  show Reading a o.call (resultOf o.call (o.exchange b received e).final)
  rw [answered_iff.1 h]
  exact interpret_reading o.call a

/-! ## The four ends -/

/-- **The ends of a call**, given its final answer, if there is one. -/
structure Ends (call : Call) (Final : Answer → Prop) (result : Except CallError CallResult) :
    Prop where
  /-- No final answer came, or the body of a success broke off where it is read. -/
  transport : (∃ fault, result = .error (.transport fault)) ↔
    (∀ a, ¬ Final a) ∨ ∃ a, Final a ∧ a.Succeeds ∧ call.ReadsBody a.status ∧ a.CutShort
  /-- The answer is no success. A body that broke off counts as empty. -/
  status : ∀ code body, result = .error (.status code body) ↔
    ∃ a, Final a ∧ ¬ a.Succeeds ∧ code = a.status ∧
      (a.text? = some body ∨ a.CutShort ∧ body = "")
  /-- The answer is a success whose text says something, but not what was asked for. -/
  decode : (∃ err, result = .error (.decode call err)) ↔
    ∃ a, Final a ∧ a.Succeeds ∧ call.ReadsBody a.status ∧
      ∃ text, a.text? = some text ∧ ¬ Text.allBlank text ∧ ¬ call.Accepts a text
  /-- Any other answer is good, if it was read at all. -/
  success : (∃ r, result = .ok r) ↔
    ∃ a, Final a ∧ a.Succeeds ∧ (call.ReadsBody a.status →
      ∃ text, a.text? = some text ∧ (Text.allBlank text ∨ call.Accepts a text))
  /-- No error speaks of another call. -/
  decoded : ∀ c err, result = .error (.decode c err) → c = call
  noPayment : result = .ok (.payment none) ↔
    call = .singlePayments ∧ ∃ a, Final a ∧ a.Succeeds ∧
      (a.status = 204 ∨ ∃ text, a.text? = some text ∧ Text.allBlank text)
  payment : ∀ p, result = .ok (.payment (some p)) ↔
    call = .singlePayments ∧ ∃ a, Final a ∧ a.Succeeds ∧ a.status ≠ 204 ∧
      ∃ text, a.text? = some text ∧ ¬ Text.allBlank text ∧ Payment.ofJson text = .ok p
  /-- A confirmation keeps the status. -/
  confirmation : ∀ c, result = .ok (.confirmation c) ↔
    call ≠ .singlePayments ∧ ∃ a, Final a ∧ a.Succeeds ∧ c.status = a.status ∧
      ∃ text, a.text? = some text ∧ c.body.Shows a text

/-- Where no answer comes, a call ends with the fault of its exchange. -/
theorem ends_of_fault (call : Call) (fault : Http.TransportFault) {Final : Answer → Prop}
    (hf : ∀ a, ¬ Final a) : Ends call Final (.error (.transport fault)) := by
  constructor <;> simp [hf]

/-- Where an answer comes, a call ends as the answer is read. -/
theorem Reading.ends {call : Call} {a : Answer} {result : Except CallError CallResult}
    (h : Reading a call result) {Final : Answer → Prop} (hf : ∀ a', Final a' ↔ a = a') :
    Ends call Final result := by
  -- What the conditions say of some final answer, they say of this one.
  constructor
  · simpa [hf] using h.transport_iff
  · simpa [hf] using h.status_iff
  · simpa [hf] using h.decode_iff
  · simpa [hf] using h.success_iff
  · exact fun c err hd => h.call_of_decode hd
  · simpa [hf] using h.noPayment_iff
  · simpa [hf] using h.payment_iff
  · simpa [hf] using h.confirmation_iff

/-- **Every call ends in one of four ways**, each of which comes about under an exact condition on
its final answer, whatever the backend answers. -/
theorem ends_of_answer (b : Backend) (received : List Request) (e : Endpoints) (o : Order) :
    Ends o.call (fun a => ∃ url, o.Answered b received e url a)
      (o.perform b received e).result := by
  show Ends o.call _ (Order.resultOf o.call (o.exchange b received e).final)
  simp only [Order.answered_iff]
  cases hx : (o.exchange b received e).final with
  | error fault => exact ends_of_fault o.call fault fun a h => nomatch h.choose_spec
  | ok p =>
    refine (Order.interpret_reading o.call p.2).ends fun a => ?_
    constructor
    · rintro ⟨url, h⟩
      exact congrArg Prod.snd (Except.ok.inj h)
    · rintro rfl
      exact ⟨p.1, rfl⟩

end Teller
