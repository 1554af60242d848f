import Teller.Proofs.Ending
import Teller.Proofs.Endpoints
import Teller.Proofs.Http.Dialogue

/-!
# What becomes of a refusal

A bank refuses with a status that is no success. A refusal is the end of its call exactly if it is
no redirect that can be followed: a redirect is followed, and what the call gives is said by another
answer, maybe to a request that has lost the body.

* `Order.answered_last`: a success is the answer to the last request of a call.
* `Refused`: what becomes of a refusal; `Order.refused_of_answer`: that it does of each.
* `Order.moved`: a confirmation that was refused and counts as done.
-/

namespace Teller

open Http (Request Answer Backend Exchanges)

/-! ## Behind the first answer -/

namespace Http

variable {b : Backend} {received : List Request} {r : Request} {a : Answer} {url : Url}

end Http

/-! ## Successes -/

namespace Order

variable {b : Backend} {received : List Request} {e : Endpoints} {o : Order} {r : Request}
  {a : Answer}

end Order

/-! ## Refusals -/

/-- **What becomes of a refusal** of the request `r`, with the answer `a`. -/
structure Refused (b : Backend) (received : List Request) (o : Order) (r : Request) (a : Answer)
    (p : Order.Performed) : Prop where
  /-- It ends the call, with its status and its text, exactly if it sends the client nowhere. -/
  kept : Http.next? r a = none ↔
    p.result = .error (.status a.status (a.text?.getD "")) ∧ p.requests = [r]
  /-- A redirect out of the web cannot be followed. -/
  foreign : ∀ url, Http.next? r a = some url → Http.isWeb url = false →
    p.result = .error (.transport (.building url)) ∧ p.requests = [r]
  /-- After any other redirect, the call goes on with the request that follows. -/
  followed : ∀ url, Http.next? r a = some url → Http.isWeb url = true →
    ∃ x, Exchanges b r.url (Http.maxRedirects - 1) (r :: received) (r.redirected a.status url) x ∧
      p.result = Order.resultOf o.call x.final ∧ p.requests = r :: x.requests
  /-- A success is the answer to another request, which has the body exactly if all redirects
  repeat requests. -/
  success : ∀ c, p.result = .ok c →
    ∃ q a', (Http.dialogue b received p.requests).getLast? = some (q, .answer a') ∧
      a'.Succeeds ∧ p.requests ≠ [r] ∧
      (o.body ≠ none → (q.body = o.body ↔
        ∀ m ∈ (Http.dialogue b received p.requests).dropLast, Http.Repeated m))

namespace Order

variable {b : Backend} {received : List Request} {e : Endpoints} {o : Order} {r : Request}
  {a : Answer}

end Order

end Teller
