import Mathlib.Data.List.Forall2
import Teller.Proofs.Endpoints
import Teller.Proofs.Session.Run

/-!
# Runs are blind to the TAN

Nothing but the body of a TAN confirmation depends on a TAN, and with it the length that its headers
tell. Erasing all TANs from a world and a step commutes with taking the step, so two runs whose
inputs agree once their TANs are erased agree in everything but what erasing removes.

* `Record.withoutTan` and its like: records, steps, worlds, requests and reports without TANs.
* `Http.fetch_withoutTan`, `World.step_withoutTan`, `World.run_withoutTan`: erasing commutes with
  exchanges, steps and runs, as long as the backend cannot tell the difference.
* `Report.SameButTan`: what two runs have in common; `runs_sameButTan`: it holds of every two.
* `confirming_lengths`: two runs whose headers are not the same.
-/

namespace Teller

open Http (Request Reply Backend)

/-! ## Erasing TANs -/

/-- Without the members of a name. -/
def Json.Value.without (name : String) : Json.Value → Json.Value
  | .object members => .object (members.filter (·.1 != name))
  | v => v

/-- A record without its TAN. -/
def Record.withoutTan (r : Record) : Record := { r with tan := none }

/-- An order whose record has no TAN. -/
def Order.withoutTan : Order → Order
  | .tanConfirmation r => .tanConfirmation r.withoutTan
  | .consent r d => .consent r.withoutTan d
  | .singlePayments r => .singlePayments r.withoutTan

/-- A pending call without TANs. -/
def Pending.withoutTan : Pending → Pending
  | .ready order => .ready order.withoutTan
  | .unread cell text => .unread cell text

/-- A step whose record has no TAN. -/
def Step.withoutTan : Step → Step
  | .create id r => .create id r.withoutTan
  | .detached r => .detached r.withoutTan
  | .save s r => .save s r.withoutTan
  | .direct r d => .direct r.withoutTan d
  | s => s

/-- A request without the member of the TAN. -/
def Http.Request.withoutTan (r : Request) : Request :=
  { r with body := r.body.map (·.without "tanNumber") }

/-- An exchange whose requests have no TAN. -/
def Http.Exchange.withoutTan (x : Http.Exchange) : Http.Exchange :=
  { x with requests := x.requests.map Request.withoutTan }

/-- An answer whose record has no TAN. -/
def Answer.withoutTan : Answer → Answer
  | .loaded k r => .loaded k r.withoutTan
  | .record r => .record r.withoutTan
  | a => a

/-- A report without TANs. Its log stays as it is. -/
def Report.withoutTan (r : Report) : Report :=
  ⟨r.answer.withoutTan, r.log, r.requests.map Request.withoutTan⟩

/-- A world without TANs. Register and metrics stay as they are. -/
def World.withoutTan (w : World) : World :=
  { w with
    cells := w.cells.map Record.withoutTan
    pending := w.pending.map (Option.map Pending.withoutTan)
    snapshots := w.snapshots.map Record.withoutTan
    received := w.received.map Request.withoutTan }

/-- A backend that replies the same when all TANs are erased from what it received. -/
def Http.Backend.Blind (b : Backend) : Prop := ∀ rs, b (rs.map Request.withoutTan) = b rs

/-- A backend with a fixed script: its reply depends on how many requests have come so far. -/
def Http.Backend.scripted (script : Nat → Reply) : Backend := fun rs => script rs.length

theorem Http.Backend.scripted_blind (script : Nat → Reply) : (Backend.scripted script).Blind :=
  fun _ => congrArg script (List.length_map ..)

/-! ## Requests -/

theorem Record.tanBody_withoutTan (r : Record) :
    r.withoutTan.tanBody = r.tanBody.without "tanNumber" := by
  cases h : r.tan <;>
    simp [tanBody, withoutTan, Json.Value.without, consentMembers, h]

theorem Record.consentBody_without (r : Record) :
    r.consentBody.without "tanNumber" = r.consentBody := by
  simp [consentBody, Json.Value.without, consentMembers]

namespace Order

theorem url_withoutTan (e : Endpoints) (o : Order) : o.withoutTan.url e = o.url e := by
  cases o <;> rfl

theorem method_withoutTan (o : Order) : o.withoutTan.method = o.method := by cases o <;> rfl

theorem call_withoutTan (o : Order) : o.withoutTan.call = o.call := by cases o <;> rfl

theorem body_withoutTan (o : Order) :
    o.withoutTan.body = o.body.map (·.without "tanNumber") := by
  cases o with
  | tanConfirmation r => exact congrArg some r.tanBody_withoutTan
  | consent r d => exact congrArg some r.consentBody_without.symm
  | singlePayments r => rfl

/-- The request of an order without TAN is its request without TAN. -/
theorem request_withoutTan (e : Endpoints) (o : Order) :
    o.withoutTan.request e = (o.request e).map Request.withoutTan := by
  simp only [request, Request.prepare, url_withoutTan, method_withoutTan, body_withoutTan]
  split <;> split <;> rfl

end Order

/-! ## Exchanges -/

namespace Http

theorem Request.redirected_withoutTan (r : Request) (status : Nat) (url : Url) :
    r.withoutTan.redirected status url = (r.redirected status url).withoutTan := by
  unfold redirected withoutTan
  by_cases h : repeats status <;> simp [h]

/-- **Erasing commutes with an exchange**, redirects included: the backend sees no difference, and
where an answer leads does not depend on the body. -/
theorem Exchanges.withoutTan {b : Backend} (hb : b.Blind) {first : Url} {left : Nat}
    {received : List Request} {r : Request} {x : Exchange}
    (hx : Exchanges b first left received r x) :
    Exchanges b first left (received.map Request.withoutTan) r.withoutTan x.withoutTan := by
  -- Each rule asks the backend once, for requests that differ from the erased ones in TANs only.
  induction hx with
  | @unsent left received r h => exact .unsent fun web => (hb (r :: received)).trans (h web)
  | @broken left received r web h => exact .broken web ((hb (r :: received)).trans h)
  | @final left received r a web h hn => exact .final web ((hb (r :: received)).trans h) hn
  | @exhausted received r a url web h hn =>
    exact .exhausted web ((hb (r :: received)).trans h) hn
  | @foreign left received r a url web h hn hw =>
    exact .foreign web ((hb (r :: received)).trans h) hn hw
  | @redirect left received r a url x web h hn hw hx ih =>
    rw [← Request.redirected_withoutTan] at ih
    exact .redirect (r := r.withoutTan) web ((hb (r :: received)).trans h) hn hw ih

theorem fetch_withoutTan {b : Backend} (hb : b.Blind) (received : List Request) (r : Request) :
    fetch b (received.map Request.withoutTan) r.withoutTan =
      (fetch b received r).withoutTan :=
  ((follow_exchanges b r.url maxRedirects received r).withoutTan hb).eq_follow.symm

end Http

theorem Order.exchange_withoutTan {b : Backend} (hb : b.Blind) (received : List Request)
    (e : Endpoints) (o : Order) :
    o.withoutTan.exchange b (received.map Request.withoutTan) e =
      (o.exchange b received e).withoutTan := by
  unfold exchange
  rw [request_withoutTan]
  cases o.request e with
  | error fault => rfl
  | ok r => exact Http.fetch_withoutTan hb received r

/-! ## Steps and runs -/

namespace World

variable {w : World} {b : Backend}

theorem recordAt_withoutTan (w : World) (cell : Cell) :
    w.withoutTan.recordAt cell = (w.recordAt cell).withoutTan := by
  unfold recordAt withoutTan
  rw [List.getD_eq_getElem?_getD, List.getD_eq_getElem?_getD, List.getElem?_map]
  cases w.cells[cell]? <;> rfl

theorem perform_withoutTan (hb : b.Blind) (w : World) (o : Order) :
    w.withoutTan.perform b o.withoutTan =
      ((w.perform b o).1.withoutTan, (w.perform b o).2.withoutTan) := by
  have hx := Order.exchange_withoutTan hb w.received w.endpoints o
  have hreceived : w.withoutTan.received = w.received.map Request.withoutTan := rfl
  have hendpoints : w.withoutTan.endpoints = w.endpoints := rfl
  simp only [perform, Order.perform, hreceived, hendpoints, hx, Order.call_withoutTan]
  simp only [withoutTan, Report.withoutTan, Answer.withoutTan, Http.Exchange.withoutTan,
    List.map_append, List.map_reverse]

theorem performText_withoutTan (hb : b.Blind) (w : World) (text : String) (record : Record) :
    w.withoutTan.performText b text record.withoutTan =
      ((w.performText b text record).1.withoutTan,
        (w.performText b text record).2.withoutTan) := by
  unfold performText
  cases Decision.ofText? text with
  | none => rfl
  | some d => exact perform_withoutTan hb w (.consent record d)

theorem performDirect_withoutTan (hb : b.Blind) (w : World) (record : Record) (d : Demand) :
    w.withoutTan.performDirect b record.withoutTan d =
      ((w.performDirect b record d).1.withoutTan,
        (w.performDirect b record d).2.withoutTan) := by
  cases d with
  | confirmTan => exact perform_withoutTan hb w (.tanConfirmation record)
  | decide decision => exact perform_withoutTan hb w (.consent record decision)
  | decideText text => exact performText_withoutTan hb w text record
  | showPayment => exact perform_withoutTan hb w (.singlePayments record)

theorem await_withoutTan (hb : b.Blind) (w : World) (p : Pending) :
    w.withoutTan.await b p.withoutTan =
      ((w.await b p).1.withoutTan, (w.await b p).2.withoutTan) := by
  cases p with
  | ready o => exact perform_withoutTan hb w o
  | unread cell text =>
    simp only [await, Pending.withoutTan, recordAt_withoutTan]
    exact performText_withoutTan hb w text _

theorem pendingOf_withoutTan (w : World) (cell : Cell) (d : Demand) :
    w.withoutTan.pendingOf cell d = (w.pendingOf cell d).withoutTan := by
  cases d <;> simp only [pendingOf, recordAt_withoutTan, Pending.withoutTan, Order.withoutTan]

theorem resolve_withoutTan (w : World) (r : SessionRef) :
    w.withoutTan.resolve r = w.resolve r := rfl

theorem withCell_withoutTan (w : World) (r : SessionRef) {act act' : Cell → World × Report}
    (h : ∀ cell, act' cell = ((act cell).1.withoutTan, (act cell).2.withoutTan)) :
    w.withoutTan.withCell r act' =
      ((w.withCell r act).1.withoutTan, (w.withCell r act).2.withoutTan) := by
  unfold withCell
  rw [resolve_withoutTan]
  cases w.resolve r with
  | error e => rfl
  | ok cell => exact h cell

theorem length_cells_withoutTan (w : World) : w.withoutTan.cells.length = w.cells.length :=
  List.length_map ..

theorem allocate_withoutTan (w : World) (record : Record) :
    w.withoutTan.allocate record.withoutTan = (w.allocate record).withoutTan := by
  simp only [allocate, withoutTan, List.map_append, List.map_cons, List.map_nil]

theorem take?_withoutTan (w : World) (k : Nat) :
    w.withoutTan.take? k =
      (w.take? k).map fun p => (p.1.withoutTan, p.2.withoutTan) := by
  have hpending : w.withoutTan.pending = w.pending.map (Option.map Pending.withoutTan) := rfl
  have hget : w.withoutTan.pending.getD k none =
      (w.pending.getD k none).map Pending.withoutTan := by
    rw [hpending, List.getD_eq_getElem?_getD, List.getD_eq_getElem?_getD, List.getElem?_map]
    cases w.pending[k]? <;> rfl
  unfold take?
  rw [hget]
  cases w.pending.getD k none with
  | none => rfl
  | some p =>
    simp only [Option.map_some, withoutTan, List.map_set, Option.map_none]

/-- **Erasing commutes with a step.** -/
theorem step_withoutTan (hb : b.Blind) (w : World) (s : Step) :
    w.withoutTan.step b s.withoutTan =
      ((w.step b s).1.withoutTan, (w.step b s).2.withoutTan) := by
  cases s with
  | create id record =>
    have hmanager : w.withoutTan.manager = w.manager := rfl
    simp only [step, Step.withoutTan, length_cells_withoutTan, hmanager]
    cases w.manager.open? id w.cells.length with
    | none => rfl
    | some m =>
      simp only [allocate_withoutTan]
      rfl
  | detached record =>
    simp only [step, Step.withoutTan, allocate_withoutTan, length_cells_withoutTan]
    rfl
  | get r => exact withCell_withoutTan w r fun cell => rfl
  | remove id =>
    have hmanager : w.withoutTan.manager = w.manager := rfl
    simp only [step, Step.withoutTan, hmanager]
    cases w.manager.close? id <;> rfl
  | save r record =>
    refine withCell_withoutTan w r fun cell => ?_
    simp only [withoutTan, List.map_set]
    rfl
  | load r =>
    refine withCell_withoutTan w r fun cell => ?_
    simp only [recordAt_withoutTan]
    simp only [withoutTan, List.map_append, List.length_map]
    rfl
  | recheck k =>
    have hsnapshot : w.withoutTan.snapshots[k]? = w.snapshots[k]?.map Record.withoutTan :=
      List.getElem?_map
    simp only [step, Step.withoutTan, hsnapshot]
    cases w.snapshots[k]? <;> rfl
  | call r d =>
    refine withCell_withoutTan w r fun cell => ?_
    rw [pendingOf_withoutTan]
    exact await_withoutTan hb w _
  | direct record d => exact performDirect_withoutTan hb w record d
  | begin r d =>
    refine withCell_withoutTan w r fun cell => ?_
    simp only [pendingOf_withoutTan]
    simp only [withoutTan, List.map_append, List.length_map]
    rfl
  | await k =>
    simp only [step, Step.withoutTan, take?_withoutTan]
    cases w.take? k with
    | none => rfl
    | some p => exact await_withoutTan hb p.2 p.1
  | drop k =>
    simp only [step, Step.withoutTan, take?_withoutTan]
    cases w.take? k <;> rfl

/-- **Erasing commutes with a run** whose backends cannot tell the difference. -/
theorem run_withoutTan (w : World) (es : List (Backend × Step)) (hb : ∀ e ∈ es, e.1.Blind) :
    w.withoutTan.run (es.map (Prod.map id Step.withoutTan)) =
      ((w.run es).1.withoutTan, (w.run es).2.map Report.withoutTan) := by
  induction es generalizing w with
  | nil => rfl
  | cons e es ih =>
    obtain ⟨b, s⟩ := e
    have hstep := step_withoutTan (hb (b, s) List.mem_cons_self) w s
    simp only [List.map_cons, Prod.map_apply, id_eq, run, hstep]
    rw [ih _ fun e he => hb e (List.mem_cons_of_mem _ he)]

end World

/-! ## Two runs -/

/-- The headers of a request but those of a name. -/
def Http.Request.headersWithout (name : String) (r : Request) : List (String × String) :=
  r.headers.filter (·.1 != name)

/-- Two requests of one kind, to one URL. Their headers are the same but for the length of the body,
and their bodies are the same but for the member of the TAN. They differ at most if they are
posted. -/
structure Http.Request.SameButTan (q q' : Request) : Prop where
  method : q.method = q'.method
  url : q.url = q'.url
  headers : q.headersWithout "content-length" = q'.headersWithout "content-length"
  body : q.body.map (·.without "tanNumber") = q'.body.map (·.without "tanNumber")
  post : q = q' ∨ q.method = .post

/-- **Two reports that differ in TANs at most.** -/
structure Report.SameButTan (r r' : Report) : Prop where
  /-- The same answer; only in a loaded record the TAN may be another. -/
  answer : r.answer.withoutTan = r'.answer.withoutTan
  log : r.log = r'.log
  requests : List.Forall₂ Http.Request.SameButTan r.requests r'.requests
  /-- Whatever does not confirm a TAN sends the very same. -/
  bodies : .sending .tanConfirmation ∉ r.log → r.requests = r'.requests

/-- Bodies are posted, and only a confirmation of a TAN has one with a TAN. -/
structure Report.Confined (r : Report) : Prop where
  post : ∀ q ∈ r.requests, q.body = none ∨ q.method = .post
  bodies : .sending .tanConfirmation ∉ r.log → ∀ q ∈ r.requests, q.withoutTan = q

namespace World

variable {w : World} {b : Backend} {s : Step}

/-- **TANs are confined to the confirmations of TANs.** -/
theorem step_confined (w : World) (b : Backend) (s : Step) : (w.step b s).2.Confined := by
  cases ho : w.order? s with
  | none =>
    have hnone := (step_of_no_order b ho).1
    refine ⟨?_, fun _ => ?_⟩ <;>
      · rw [hnone]
        intro q hq
        cases hq
  | some o =>
    rw [step_of_order ho]
    have hbody := Order.exchange_body b (w.spend s).received (w.spend s).endpoints o
    refine ⟨?_, ?_⟩
    · intro q hq
      rcases hbody q hq with hnone | ⟨hm, hb⟩
      · exact Or.inl hnone
      · cases o with
        | tanConfirmation record => exact Or.inr hm
        | consent record d => exact Or.inr hm
        | singlePayments record => exact Or.inl hb
    · intro hlog q hq
      -- A call that confirms no TAN has no member for one.
      have hfixed : q.body.map (·.without "tanNumber") = q.body := by
        rcases hbody q hq with hnone | ⟨-, hb⟩
        · rw [hnone]
          rfl
        · rw [hb]
          cases o with
          | tanConfirmation record => exact absurd List.mem_cons_self hlog
          | consent record d => exact congrArg some record.consentBody_without
          | singlePayments record => rfl
      unfold Request.withoutTan
      rw [hfixed]

theorem run_confined (w : World) (es : List (Backend × Step)) :
    ∀ r ∈ (w.run es).2, r.Confined := by
  induction es generalizing w with
  | nil =>
    intro r hr
    cases hr
  | cons e es ih =>
    intro r hr
    rcases List.mem_cons.1 hr with rfl | hr
    · exact step_confined w e.1 e.2
    · exact ih _ r hr

end World

namespace Http.Request

/-- Of all headers, only the length tells of a TAN. -/
theorem headersWithout_withoutTan (r : Request) :
    r.withoutTan.headersWithout "content-length" = r.headersWithout "content-length" := by
  have hkind : r.withoutTan.contentType = r.contentType := Option.map_map ..
  have hlength (length : Option String) :
      (length.map fun v => ("content-length", v)).toList.filter (·.1 != "content-length") = [] := by
    cases length <;> rfl
  have hhost : r.withoutTan.host = r.host := rfl
  simp only [headersWithout, headers, hkind, hhost, List.filter_cons, List.filter_append, hlength]
  rfl

theorem withoutTan_of_bodiless {r : Request} (h : r.body = none) : r.withoutTan = r := by
  unfold withoutTan
  rw [h, Option.map_none, ← h]

/-- Requests that are the same without TANs. -/
theorem sameButTan_of_eq {q q' : Request} (h : q.withoutTan = q'.withoutTan)
    (hp : q.body = none ∨ q.method = .post) : q.SameButTan q' := by
  have hparts := h
  simp only [withoutTan, mk.injEq] at hparts
  obtain ⟨hmethod, hurl, hbody, -⟩ := hparts
  refine ⟨hmethod, hurl, ?_, hbody, hp.imp_left fun hnone => ?_⟩
  · rw [← q.headersWithout_withoutTan, h, headersWithout_withoutTan]
  · -- Neither of them has a body, so there is nothing to erase.
    rw [hnone, Option.map_none] at hbody
    have hnone' := Option.map_eq_none_iff.1 hbody.symm
    rw [← withoutTan_of_bodiless hnone, h, withoutTan_of_bodiless hnone']

end Http.Request

/-- Lists that an erasing makes equal, member by member. -/
theorem forall₂_of_map_eq {α β : Type} {f : α → β} {P : α → Prop} {R : α → α → Prop}
    (h : ∀ a a', f a = f a' → P a → P a' → R a a') {as as' : List α}
    (hmap : as.map f = as'.map f) (has : ∀ a ∈ as, P a) (has' : ∀ a ∈ as', P a) :
    List.Forall₂ R as as' := by
  have hall : List.Forall₂ (fun a a' => f a = f a') as as' := by
    rw [← List.forall₂_map_right_iff, ← List.forall₂_map_left_iff, hmap]
    exact List.forall₂_refl _
  induction hall with
  | nil => exact .nil
  | cons ha _ ih =>
    rw [List.forall_mem_cons] at has has'
    rw [List.map_cons, List.map_cons, List.cons.injEq] at hmap
    exact .cons (h _ _ ha has.1 has'.1) (ih hmap.2 has.2 has'.2)

theorem Report.sameButTan_of_eq {r r' : Report} (h : r.withoutTan = r'.withoutTan)
    (hr : r.Confined) (hr' : r'.Confined) : r.SameButTan r' := by
  obtain ⟨answer, log, requests⟩ := r
  obtain ⟨answer', log', requests'⟩ := r'
  simp only [Report.withoutTan, Report.mk.injEq] at h
  obtain ⟨hanswer, rfl, hrequests⟩ := h
  refine ⟨hanswer, rfl, ?_, fun hn => ?_⟩
  · exact forall₂_of_map_eq (f := Request.withoutTan)
      (P := fun q : Request => q.body = none ∨ q.method = .post)
      (fun _ _ h hp _ => Http.Request.sameButTan_of_eq h hp) hrequests hr.post hr'.post
  · have hsame := List.map_congr_left (hr.bodies hn)
    have hsame' := List.map_congr_left (hr'.bodies hn)
    rw [List.map_id'] at hsame hsame'
    rw [← hsame, ← hsame', hrequests]

namespace World

/-- **Two runs whose records differ in TANs at most** cannot be told apart but for the TANs
themselves. Whatever the backend answers, each of the steps gives the same, logs the same and sends
the same, except for the TAN in a confirmation and in a record that is loaded and for the length of
a confirmation, and the same is counted. -/
theorem runs_sameButTan (e : Endpoints) (max : Nat) (es es' : List ((Nat → Reply) × Step))
    (h : es.map (Prod.map id Step.withoutTan) = es'.map (Prod.map id Step.withoutTan)) :
    let p := (start e max).run (es.map (Prod.map Backend.scripted id))
    let p' := (start e max).run (es'.map (Prod.map Backend.scripted id))
    p.1.metrics = p'.1.metrics ∧ List.Forall₂ Report.SameButTan p.2 p'.2 := by
  have hblind (es : List ((Nat → Reply) × Step)) :
      ∀ e ∈ es.map (Prod.map Backend.scripted id), e.1.Blind := by
    intro e he
    obtain ⟨e, -, rfl⟩ := List.mem_map.1 he
    exact Backend.scripted_blind e.1
  have hruns := run_withoutTan (start e max) _ (hblind es)
  have hruns' := run_withoutTan (start e max) _ (hblind es')
  -- The erased runs start in one world and take the same steps.
  have hsteps : (es.map (Prod.map Backend.scripted id)).map (Prod.map id Step.withoutTan) =
      (es'.map (Prod.map Backend.scripted id)).map (Prod.map id Step.withoutTan) := by
    have := congrArg (List.map (Prod.map Backend.scripted id)) h
    simpa only [List.map_map, Prod.map_comp_map, Function.comp_id, Function.id_comp] using this
  rw [hsteps, hruns'] at hruns
  obtain ⟨hworld, hreports⟩ := Prod.mk.inj hruns
  refine ⟨(congrArg metrics hworld).symm, ?_⟩
  exact forall₂_of_map_eq (fun _ _ => Report.sameButTan_of_eq) hreports.symm
    (run_confined _ _) (run_confined _ _)

/-- A confirmation with a TAN or without, to a backend that breaks the connection. -/
def confirming (tan : Option String) : List ((Nat → Reply) × Step) :=
  [.detached { tan := tan }, .call (.held 0) .confirmTan, .load (.held 0)].map
    fun s => (fun _ => .broken, s)

theorem confirming_sameButTan :
    let runOf (tan : Option String) :=
      (start .small 1).run ((confirming tan).map (Prod.map Backend.scripted id))
    (confirming (some "1")).map (Prod.map id Step.withoutTan) =
        (confirming none).map (Prod.map id Step.withoutTan) ∧
      (runOf (some "1")).1.metrics = (runOf none).1.metrics ∧
      List.Forall₂ Report.SameButTan (runOf (some "1")).2 (runOf none).2 :=
  ⟨rfl, runs_sameButTan .small 1 (confirming (some "1")) (confirming none) rfl⟩

/-- The headers tell how long the body is, and so whether there is a TAN in it. -/
theorem confirming_lengths :
    let headersOf (tan : Option String) :=
      ((start .small 1).run ((confirming tan).map (Prod.map Backend.scripted id))).2.flatMap
        fun report => report.requests.map Http.Request.headers
    (confirming (some "1")).map (Prod.map id Step.withoutTan) =
        (confirming none).map (Prod.map id Step.withoutTan) ∧
      headersOf (some "1") = [[("host", "bank.local"), ("accept", "*/*"),
        ("content-type", "application/json"), ("content-length", "57")]] ∧
      headersOf none = [[("host", "bank.local"), ("accept", "*/*"),
        ("content-type", "application/json"), ("content-length", "41")]] :=
  ⟨rfl, by decide +kernel, by decide +kernel⟩

end World

end Teller
