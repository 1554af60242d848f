import Teller.Client
import Teller.Proofs.Http.Exchange

/-!
# What calls send

* `Http.prepare_spec`: requests go to the web, in the name of the users of their URLs.
* `Order.request_cases`, `Order.request_ok`: the request of an order carries the order's method and
  body.
* `Order.exchange_body`: so does everything that is sent for it, unless it has no body.
* `Order.exchange_head`: the first request that is sent has one if the order has.
* `Order.exchange_reached`: the order's request is the first that is sent, if it gets anywhere.
* `Order.exchange_congr`, `Order.exchange_of_unsent`: orders of one URL lead to the same exchange if
  their bodies are the same, or if nothing is sent.
-/

namespace Teller

open Http (Request Backend)

/-- **A request that is prepared** names the user of its URL in a header, and goes to the web. -/
theorem Http.prepare_spec {method : Http.Method} {url : Url} {body : Option Json.Value}
    {r : Request} (h : Request.prepare method url body = .ok r) :
    r.authorization = (user? url).map (fun u => basic u.1 u.2) ∧ isWeb r.url = true := by
  unfold Request.prepare at h
  cases hu : user? url with
  | none =>
    rw [hu] at h
    dsimp only at h
    split at h <;> cases h
    rename_i hw
    exact ⟨rfl, hw.1⟩
  | some user =>
    rw [hu] at h
    dsimp only at h
    split at h <;> cases h
    rename_i hw
    exact ⟨rfl, hw.1⟩

namespace Order

/-- The record that an order sends. -/
def record : Order → Record
  | tanConfirmation r | consent r _ | singlePayments r => r

variable {o : Order} {e : Endpoints}

/-- The request of an order goes to its URL, whose user it names in a header, if requests can go
there at all. -/
theorem request_cases (e : Endpoints) (o : Order) :
    ∃ url authorization, (url = o.url e ∨ url = (o.url e).withoutUser) ∧
      (o.request e = .ok { method := o.method, url, body := o.body, authorization } ∨
        o.request e = .error (.building url)) := by
  unfold request Request.prepare
  cases Http.user? (o.url e) with
  | none =>
    refine ⟨o.url e, none, Or.inl rfl, ?_⟩
    dsimp only
    split
    · exact Or.inl rfl
    · exact Or.inr rfl
  | some user =>
    refine ⟨(o.url e).withoutUser, some (Http.basic user.1 user.2), Or.inr rfl, ?_⟩
    dsimp only
    split
    · exact Or.inl rfl
    · exact Or.inr rfl

/-- The request of an order carries its method and body. -/
theorem request_ok {r : Request} (h : o.request e = .ok r) :
    r.method = o.method ∧ r.body = o.body := by
  obtain ⟨url, authorization, -, hr | hr⟩ := o.request_cases e
  · rw [hr] at h
    cases h
    exact ⟨rfl, rfl⟩
  · rw [hr] at h
    cases h

/-- **Whatever is sent for an order** carries the order's body, or none. -/
theorem exchange_body (b : Backend) (received : List Request) (e : Endpoints) (o : Order) :
    ∀ q ∈ (o.exchange b received e).requests,
      q.body = none ∨ q.method = o.method ∧ q.body = o.body := by
  intro q hq
  unfold exchange at hq
  cases hr : o.request e with
  | error fault =>
    rw [hr] at hq
    cases hq
  | ok r =>
    rw [hr] at hq
    have hbody := (Http.follow_exchanges b r.url Http.maxRedirects received r).body q hq
    rwa [(request_ok hr).1, (request_ok hr).2] at hbody

/-- **The first request that is sent for an order** carries the order's body. -/
theorem exchange_head {b : Backend} {received : List Request} {q : Request}
    (h : (o.exchange b received e).requests.head? = some q) : q.body = o.body := by
  unfold exchange at h
  cases hr : o.request e with
  | error fault =>
    rw [hr] at h
    cases h
  | ok r =>
    rw [hr] at h
    rw [(Http.follow_exchanges b r.url Http.maxRedirects received r).head h]
    exact (request_ok hr).2

/-- **The request of an order is sent** before any other, unless it does not reach the backend. -/
theorem exchange_reached (b : Backend) (received : List Request) {q : Request}
    (h : o.request e = .ok q) :
    (o.exchange b received e).requests.head? =
      if b (q :: received) = .unreachable then none else some q := by
  unfold exchange
  rw [h]
  exact (Http.follow_exchanges b q.url Http.maxRedirects received q).head_of_web
    (Http.prepare_spec h).2

/-! ## Orders of one URL -/

variable {b : Backend} {received : List Request} {o' : Order}

/-- Requests to one URL differ in method and body at most. -/
theorem request_of_url (hu : o'.url e = o.url e) :
    o'.request e = (o.request e).map fun r => { r with method := o'.method, body := o'.body } := by
  simp only [request, Request.prepare, hu]
  split <;> split <;> rfl

/-- Orders with the same request have the same exchange. -/
theorem exchange_congr (hu : o'.url e = o.url e) (hm : o'.method = o.method)
    (hb : o'.body = o.body) : o'.exchange b received e = o.exchange b received e := by
  unfold exchange request
  rw [hu, hm, hb]

/-- **There is one way to send nothing** to a URL, whatever was to be sent. -/
theorem exchange_of_unsent (hu : o'.url e = o.url e) (h : (o.exchange b received e).requests = [])
    (h' : (o'.exchange b received e).requests = []) :
    o'.exchange b received e = o.exchange b received e := by
  unfold exchange at h h' ⊢
  rw [request_of_url hu] at h' ⊢
  cases hr : o.request e with
  | error fault => rfl
  | ok r =>
    rw [hr] at h h'
    -- Both requests go to one URL, and that is all that a fault tells.
    have hx := Http.follow_exchanges b r.url Http.maxRedirects received
    exact ((hx _).eq_of_unsent h').trans ((hx r).eq_of_unsent h).symm

end Order

end Teller
