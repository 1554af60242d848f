import Mathlib.Logic.Basic
import Teller.Http.Fetch

/-!
# How exchanges go

An exchange as a derivation, with one rule for each way in which a request can end or go on. What
holds of all exchanges is proved by induction on the derivation.

* `Exchanges`: the rules; `follow_exchanges` and `Exchanges.eq_follow`: exactly the exchange that
  `follow` computes is derivable.
* `Exchanges.body`: whatever is sent repeats the first request's body, or has none.
* `Exchanges.head`, `Exchanges.head_of_web`: the first request is what the exchange began with.
* `Exchanges.eq_of_unsent`: there is one way to send nothing.
* `Exchanges.sending`: no answer at all is blamed on the first URL.
-/

namespace Teller.Http

/-- The URL that an answer sends the client to, if it is a redirect that names one. -/
def next? (r : Request) (a : Answer) : Option Url :=
  if isRedirect a.status then target? r a else none

/-- **An exchange from a request on**, with so many redirects left. -/
inductive Exchanges (b : Backend) (first : Url) : Nat → List Request → Request → Exchange → Prop
  /-- The request does not reach the backend. -/
  | unsent {left received r} (h : isWeb r.url = true → b (r :: received) = .unreachable) :
      Exchanges b first left received r ⟨[], .error (.sending first)⟩
  /-- No answer comes. -/
  | broken {left received r} (web : isWeb r.url = true) (h : b (r :: received) = .broken) :
      Exchanges b first left received r ⟨[r], .error (.sending first)⟩
  /-- The answer is final. -/
  | final {left received r a} (web : isWeb r.url = true) (h : b (r :: received) = .answer a)
      (hn : next? r a = none) : Exchanges b first left received r ⟨[r], .ok (r.url, a)⟩
  /-- The answer is one redirect too many. -/
  | exhausted {received r a url} (web : isWeb r.url = true)
      (h : b (r :: received) = .answer a) (hn : next? r a = some url) :
      Exchanges b first 0 received r ⟨[r], .error (.redirecting r.url)⟩
  /-- The answer leads out of the web. -/
  | foreign {left received r a url} (web : isWeb r.url = true)
      (h : b (r :: received) = .answer a) (hn : next? r a = some url) (hw : isWeb url = false) :
      Exchanges b first (left + 1) received r ⟨[r], .error (.building url)⟩
  /-- The answer is a redirect that is followed. -/
  | redirect {left received r a url x} (web : isWeb r.url = true)
      (h : b (r :: received) = .answer a) (hn : next? r a = some url) (hw : isWeb url = true)
      (hx : Exchanges b first left (r :: received) (r.redirected a.status url) x) :
      Exchanges b first (left + 1) received r (x.behind r)

variable {b : Backend} {first : Url} {left : Nat} {received : List Request} {r : Request}
  {x : Exchange}

/-- What `follow` computes is an exchange. -/
theorem follow_exchanges (b : Backend) (first : Url) (left : Nat) (received : List Request)
    (r : Request) : Exchanges b first left received r (follow b first left received r) := by
  induction left generalizing received r with
  | zero =>
    unfold follow
    split
    · rename_i hs
      exact .unsent fun h => absurd h hs
    rename_i hs
    have web := not_not.1 hs
    split
    · rename_i h
      exact .unsent fun _ => h
    · rename_i h
      exact .broken web h
    · rename_i a h
      split
      · rename_i hn
        exact .final web h hn
      · rename_i hn
        exact .exhausted web h hn
  | succ left ih =>
    unfold follow
    split
    · rename_i hs
      exact .unsent fun h => absurd h hs
    rename_i hs
    have web := not_not.1 hs
    split
    · rename_i h
      exact .unsent fun _ => h
    · rename_i h
      exact .broken web h
    · rename_i a h
      split
      · rename_i hn
        exact .final web h hn
      · rename_i url hn
        dsimp only
        split
        · rename_i hw
          exact .redirect web h hn hw (ih _ _)
        · rename_i hw
          exact .foreign web h hn (Bool.eq_false_iff.2 hw)

/-- A request leads to one exchange. -/
theorem Exchanges.eq_follow (hx : Exchanges b first left received r x) :
    x = follow b first left received r := by
  induction hx with
  | unsent h =>
    unfold follow
    split
    · rfl
    · rename_i hs
      rw [h (not_not.1 hs)]
  | broken web h => unfold follow; rw [if_neg (not_not.2 web), h]
  | final web h hn =>
    unfold follow
    unfold next? at hn
    rw [if_neg (not_not.2 web), h]
    simp only [hn]
  | exhausted web h hn =>
    unfold follow
    unfold next? at hn
    rw [if_neg (not_not.2 web), h]
    simp only [hn]
  | foreign web h hn hw =>
    unfold follow
    unfold next? at hn
    rw [if_neg (not_not.2 web), h]
    simp only [hn, hw]
    rfl
  | redirect web h hn hw hx ih =>
    unfold follow
    unfold next? at hn
    rw [if_neg (not_not.2 web), h]
    simp only [hn, hw, ih]
    rfl

/-- **Whatever is sent repeats the first request's body**, in a request of the same kind, or has no
body at all. -/
theorem Exchanges.body (hx : Exchanges b first left received r x) :
    ∀ q ∈ x.requests, q.body = none ∨ q.method = r.method ∧ q.body = r.body := by
  induction hx with
  | unsent h => intro q hq; cases hq
  | broken | final | exhausted | foreign =>
    intro q hq
    rw [List.mem_singleton.1 hq]
    exact Or.inr ⟨rfl, rfl⟩
  | @redirect left received r a url x web h hn hw hx ih =>
    intro q hq
    rcases List.mem_cons.1 hq with rfl | hq
    · exact Or.inr ⟨rfl, rfl⟩
    rcases ih q hq with hnone | ⟨hm, hb⟩
    · exact Or.inl hnone
    · by_cases hr : repeats a.status
      · exact Or.inr ⟨by simpa [Request.redirected, hr] using hm,
          by simpa [Request.redirected, hr] using hb⟩
      · exact Or.inl (by simpa [Request.redirected, hr] using hb)

/-- If anything is sent, the request comes first that the exchange began with. -/
theorem Exchanges.head (hx : Exchanges b first left received r x) {q : Request}
    (hq : x.requests.head? = some q) : q = r := by
  cases hx with
  | unsent h => cases hq
  | broken | final | exhausted | foreign | redirect => exact (Option.some.inj hq).symm

/-- The request is sent that the exchange began with, unless it does not reach the backend. -/
theorem Exchanges.head_of_web (hx : Exchanges b first left received r x)
    (web : isWeb r.url = true) :
    x.requests.head? = if b (r :: received) = .unreachable then none else some r := by
  cases hx with
  | unsent h =>
    rw [if_pos (h web)]
    rfl
  | broken _ h =>
    rw [h]
    rfl
  | final _ h | exhausted _ h | foreign _ h | redirect _ h =>
    rw [h]
    rfl

/-- Where nothing is sent, the first URL is to blame. -/
theorem Exchanges.eq_of_unsent (hx : Exchanges b first left received r x) (h : x.requests = []) :
    x = ⟨[], .error (.sending first)⟩ := by
  cases hx with
  | unsent _ => rfl
  | broken | final | exhausted | foreign | redirect => cases h

/-- Where no answer comes, the fault names the URL that the exchange began with. -/
theorem Exchanges.sending (hx : Exchanges b first left received r x) {url : Url}
    (h : x.final = .error (.sending url)) : first = url := by
  induction hx with
  | unsent | broken => cases h; rfl
  | final | exhausted | foreign => cases h
  | redirect web hb hn hw hx ih => exact ih h

end Teller.Http
