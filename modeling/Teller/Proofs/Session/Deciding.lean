import Teller.Proofs.Decision
import Teller.Proofs.Endpoints
import Teller.Proofs.Session.Run

/-!
# What a text decides

A consent can be decided by a text that somebody typed. Whatever it is, the backend sees nothing of
it but one of two decisions; a text that names neither is refused before anything is done.

* `World.Decides`: the steps that await a text's decision.
* `order?_of_decides`, `step_of_undecided`: what such a step comes to.
* `Order.consent_reached`: the first request of a decision.
* `Refused`, `Sent`: the two ends of such a step; `decided_of_text`: which of them it has.
-/

namespace Teller

open Http (Request Backend)

/-! ## The request of a decision -/

/-- **A request that decides a consent.** -/
structure ConsentRequest (e : Endpoints) (record : Record) (d : Decision) (q : Request) :
    Prop where
  method : q.method = .post
  server : q.url.SameServer e.base
  path : q.url.path = (e.below (e.confirmation.text ++ "/consent").toList).path
  query : q.url.query = some ("decision=" ++ d.word).toList
  body : q.body = some record.consentBody

namespace Order

variable {e : Endpoints} {record : Record} {d : Decision}

/-- The request of a decision goes to its page. -/
theorem consentRequest_of_request {q : Request}
    (h : (Order.consent record d).request e = .ok q) : ConsentRequest e record d q := by
  obtain ⟨hmethod, hbody⟩ := request_ok h
  have hserver := sameServer_request h
  obtain ⟨url, authorization, hurl, hq | hq⟩ := request_cases e (.consent record d)
  · rw [hq] at h
    cases h
    rcases hurl with rfl | rfl
    · exact ⟨hmethod, hserver, rfl, rfl, hbody⟩
    · exact ⟨hmethod, hserver, rfl, rfl, hbody⟩
  · rw [hq] at h
    cases h

/-- **The first request of a decision**: it is sent if the host of the base can stand in a request
and the request reaches the backend. -/
theorem consent_reached (hbase : Http.isWeb e.base = true)
    (hhost : Http.hasPlainHost e.base = true) (b : Backend) (received : List Request) :
    ∃ q, ConsentRequest e record d q ∧
      ((Order.consent record d).exchange b received e).requests.head? =
        if b (q :: received) = .unreachable then none else some q := by
  have hserver := sameServer_url e (.consent record d)
  have hweb : Http.isWeb ((Order.consent record d).url e) = true := by
    unfold Http.isWeb at hbase ⊢
    rwa [hserver.1]
  have hplain : Http.hasPlainHost ((Order.consent record d).url e) = true := by
    unfold Http.hasPlainHost at hhost ⊢
    rwa [hserver.2.1]
  obtain ⟨q, hq⟩ := request_ok_iff.2 ⟨hweb, hplain⟩
  exact ⟨q, consentRequest_of_request hq, exchange_reached b received hq⟩

/-- No request goes to a host that can stand in none. -/
theorem consent_unreached (hhost : Http.hasPlainHost e.base = false) (b : Backend)
    (received : List Request) :
    ((Order.consent record d).exchange b received e).requests = [] := by
  unfold exchange
  cases hq : (Order.consent record d).request e with
  | error fault => rfl
  | ok q =>
    have hplain := (request_ok_iff.1 ⟨q, hq⟩).2
    unfold Http.hasPlainHost at hhost hplain
    rw [(sameServer_url e (.consent record d)).2.1, hhost] at hplain
    cases hplain

end Order

namespace World

variable {w : World} {b : Backend} {s : Step} {text : String} {record : Record} {d : Decision}

/-! ## Steps that await a text's decision -/

/-- **The steps that await the decision of a text**, and the record that goes with it. -/
inductive Decides (w : World) (text : String) : Step → Record → Prop
  /-- A session decides at once. -/
  | call {r : SessionRef} {cell : Cell} (hr : w.resolve r = .ok cell) :
      Decides w text (.call r (.decideText text)) (w.recordAt cell)
  /-- A session's decision was begun and is awaited. -/
  | await {k : Nat} {cell : Cell} (hp : w.pending.getD k none = some (.unread cell text)) :
      Decides w text (.await k) (w.recordAt cell)
  /-- Somebody decides without a session. -/
  | direct (record : Record) : Decides w text (.direct record (.decideText text)) record

/-- Such a step makes the call of its decision, if there is one. -/
theorem order?_of_decides (h : w.Decides text s record) :
    w.order? s = (Decision.ofText? text).map (.consent record) := by
  cases h with
  | @call r cell hr =>
    change ((w.resolve r).toOption.bind fun cell =>
      (Demand.decideText text).order? (w.recordAt cell)) = _
    rw [hr]
    rfl
  | @await k cell hp =>
    change ((w.pending.getD k none).bind fun pending => pending.order? w) = _
    rw [hp]
    rfl
  | direct record => rfl

/-- A text that is no decision changes nothing, except that its call is pending no more. -/
theorem step_of_undecided (h : w.Decides text s record) (ht : Decision.ofText? text = none)
    (b : Backend) : w.step b s = (w.spend s, ⟨.undecided text, [], []⟩) := by
  cases h with
  | call hr =>
    rw [step_call hr]
    exact performText_of_none ht _
  | await hp =>
    simp only [step, take?, hp, Option.map_some]
    exact performText_of_none ht _
  | direct record => exact performText_of_none ht record

/-- **A text that is refused**: nothing happens but that its call is pending no more. -/
structure Refused (w : World) (b : Backend) (s : Step) (text : String) : Prop where
  /-- All records, sessions, metrics and requests are as before. -/
  world : ∃ pending, (w.step b s).1 = { w with pending }
  /-- Nothing is logged or sent. -/
  report : (w.step b s).2 = ⟨.undecided text, [], []⟩
  /-- The refusal quotes the text. -/
  wording : Decision.refusal text =
    "Invalid argument: consent decision must be ACCEPTED or REJECTED, got '" ++ text ++ "'"

/-- **A decision that is sent**, with a record. -/
structure Sent (w : World) (b : Backend) (s : Step) (record : Record) (d : Decision) : Prop where
  /-- The step is the call of the decision, whatever text named it. -/
  step : w.step b s = (w.spend s).perform b (.consent record d)
  /-- Its first request decides the consent, … -/
  reached : Http.hasPlainHost w.endpoints.base = true → ∃ q,
    ConsentRequest w.endpoints record d q ∧
      (w.step b s).2.requests.head? =
        if b (q :: w.received) = .unreachable then none else some q
  /-- … unless the host of the base can stand in no request. -/
  unreached : Http.hasPlainHost w.endpoints.base = false → (w.step b s).2.requests = []

theorem refused_of_undecided (h : w.Decides text s record) (ht : Decision.ofText? text = none)
    (b : Backend) : Refused w b s text := by
  have hstep := step_of_undecided h ht b
  refine ⟨?_, ?_, rfl⟩
  · rw [hstep]
    cases s <;> exact ⟨_, rfl⟩
  · rw [hstep]

theorem sent_of_decided (h : w.Decides text s record) (ht : Decision.ofText? text = some d)
    (hbase : Http.isWeb w.endpoints.base = true) (b : Backend) : Sent w b s record d := by
  have horder : w.order? s = some (.consent record d) := by
    rw [order?_of_decides h, ht]
    rfl
  have hrequests : (w.step b s).2.requests =
      ((Order.consent record d).exchange b w.received w.endpoints).requests := by
    rw [(step_performed horder).1]
    rfl
  refine ⟨step_of_order horder, ?_, ?_⟩
  · intro hhost
    rw [hrequests]
    exact Order.consent_reached hbase hhost b w.received
  · intro hhost
    rw [hrequests]
    exact Order.consent_unreached hhost b w.received

/-- **What a text decides**, of a consent at a bank without encryption: one of two decisions, which
is all that is sent of it, or nothing at all. A JSON string that is a decision is the same decision
as a text. -/
theorem decided_of_text (h : w.Decides text s record) (hbase : w.endpoints.base.scheme = "http")
    (b : Backend) :
    ((∀ d, ¬ Decision.Names text d) → Refused w b s text) ∧
      (∀ d, Decision.Names text d → Sent w b s record d) ∧
      ∀ json d, Json.readValue json = .ok (.text text) → Decision.ofJson json = .ok d →
        Decision.ofText? text = some d := by
  have hweb : Http.isWeb w.endpoints.base = true := by
    unfold Http.isWeb
    rw [hbase]
    rfl
  refine ⟨?_, ?_, ?_⟩
  · intro hnone
    exact refused_of_undecided h (Decision.ofText?_eq_none_iff.2 hnone) b
  · intro d hd
    exact sent_of_decided h (Decision.ofText?_eq_some_iff.2 hd) hweb b
  · intro json d hjson hd
    rw [(Decision.ofJson_eq_ok_iff hjson).1 hd]
    exact Decision.ofText?_eq_some_iff.2 (Decision.names_word d)

/-- A text with blanks around its word decides, and one with more in its query does not. -/
theorem decided_padded :
    (Decides (start .small 1) "\u2003aCCepted\n" (.direct {} (.decideText "\u2003aCCepted\n")) {} ∧
      Decides (start .small 1) "ACCEPTED&paymentId=p2"
        (.direct {} (.decideText "ACCEPTED&paymentId=p2")) {}) ∧
    (start .small 1).endpoints.base.scheme = "http" ∧
    Sent (start .small 1) (.ofList []) (.direct {} (.decideText "\u2003aCCepted\n")) {} .accepted ∧
    Refused (start .small 1) (.ofList []) (.direct {} (.decideText "ACCEPTED&paymentId=p2"))
      "ACCEPTED&paymentId=p2" := by
  have hnames : Decision.Names "\u2003aCCepted\n" .accepted :=
    Decision.ofText?_eq_some_iff.1 (by decide +kernel)
  have hnone : ∀ d, ¬ Decision.Names "ACCEPTED&paymentId=p2" d :=
    Decision.ofText?_eq_none_iff.1 (by decide +kernel)
  exact ⟨⟨.direct {}, .direct {}⟩, rfl,
    (decided_of_text (.direct {}) rfl (.ofList [])).2.1 .accepted hnames,
    (decided_of_text (.direct {}) rfl (.ofList [])).1 hnone⟩

end World

end Teller
