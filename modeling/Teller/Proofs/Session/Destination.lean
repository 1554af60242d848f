import Teller.Proofs.Endpoints
import Teller.Proofs.Http.Dialogue
import Teller.Proofs.Session.Records

/-!
# Where data goes

Every call begins at the server of the base, and data is what the bodies of requests hold. Where a
redirect has a request repeated, its body goes along, to whatever server the redirect names. That is
the only way for data to reach any other server.

* `Delivered`: where the bodies of an exchange go; `delivered_of_chain`: so they go wherever
  requests follow from one another.
* `World.dialogues`: everything that is sent in a run, with the replies.
* `delivered_of_run`: where data goes in every run.
* `diverted_tan`: a TAN that reaches another server.
-/

namespace Teller

open Http (Request Reply Backend Follows)

/-- **Where data goes**, among requests with the replies to them, if it is meant for the server of
a base. -/
structure Delivered (base : Url) (d : List (Request × Reply)) : Prop where
  first : ∀ p ∈ d.head?, p.1.url.SameServer base
  /-- A body goes to another server exactly where an answer has it repeated there. -/
  astray : (∃ q ∈ d, q.1.body ≠ none ∧ ¬ q.1.url.SameServer base) ↔
    ∃ p q, [p, q] <:+: d ∧ p.1.body ≠ none ∧ ¬ q.1.url.SameServer base ∧
      ∃ a, p.2 = .answer a ∧ Http.repeats a.status ∧ Http.target? p.1 a = some q.1.url

/-- **Requests that follow from one another** deliver what they hold, if the first of them goes to
the right server. -/
theorem delivered_of_chain {base : Url} {d : List (Request × Reply)} (hd : d.IsChain Follows)
    (hfirst : ∀ p ∈ d.head?, p.1.url.SameServer base) : Delivered base d := by
  have hlink {p q : Request × Reply} (h : [p, q] <:+: d) : Follows p q :=
    (List.isChain_cons_cons.1 <| List.IsChain.infix hd h).1
  refine ⟨hfirst, ?_, ?_⟩
  · rintro ⟨q, hq, hbody, haway⟩
    obtain ⟨before, behind, rfl⟩ := List.append_of_mem hq
    rcases List.eq_nil_or_concat before with rfl | ⟨before, p, rfl⟩
    · exact absurd (hfirst q rfl) haway
    -- The request before it was answered by a redirect that has it repeated.
    have hpq : [p, q] <:+: before.concat p ++ q :: behind := ⟨before, behind, by simp⟩
    have hrep := (hlink hpq).repeated_of_body hbody
    have hp : p.1.body ≠ none := by
      rw [← (hlink hpq).body_of_repeated hrep]
      exact hbody
    exact ⟨p, q, hpq, hp, haway, (hlink hpq).target hrep⟩
  · rintro ⟨p, q, hpq, hp, haway, a, ha, hrep, -⟩
    have hq : q ∈ d := hpq.subset (List.mem_cons_of_mem p List.mem_cons_self)
    have hbody := (hlink hpq).body_of_repeated ⟨a, ha, hrep⟩
    exact ⟨q, hq, hbody ▸ hp, haway⟩

/-- What is sent for an order begins at the server of the base, and goes on as answers say. -/
theorem Order.exchange_delivered (b : Backend) (received : List Request) (e : Endpoints)
    (o : Order) :
    Delivered e.base (Http.dialogue b received (o.exchange b received e).requests) := by
  unfold exchange
  cases hr : o.request e with
  | error fault => exact delivered_of_chain List.isChain_nil fun p hp => nomatch hp
  | ok r =>
    have hx := Http.follow_exchanges b r.url Http.maxRedirects received r
    refine delivered_of_chain hx.chain fun p hp => ?_
    rw [Http.dialogue_head?, Option.mem_def, Option.map_eq_some_iff] at hp
    obtain ⟨q, hq, rfl⟩ := hp
    rw [hx.head hq]
    exact sameServer_request hr

namespace World

variable {w : World}

/-- Everything that is sent in a run, step by step, with the replies. -/
def dialogues (w : World) : List (Backend × Step) → List (List (Request × Reply))
  | [] => []
  | (b, s) :: es =>
    Http.dialogue b w.received (w.step b s).2.requests :: (w.step b s).1.dialogues es

theorem dialogues_requests (w : World) (es : List (Backend × Step)) :
    (w.dialogues es).map (List.map Prod.fst) = (w.run es).2.map Report.requests := by
  induction es generalizing w with
  | nil => rfl
  | cons p es ih => rw [dialogues, List.map_cons, Http.dialogue_requests, ih]; rfl

/-- **What a step sends** is delivered to the server of the base, as far as answers let it. -/
theorem step_delivered (w : World) (b : Backend) (s : Step) :
    Delivered w.endpoints.base (Http.dialogue b w.received (w.step b s).2.requests) := by
  cases ho : w.order? s with
  | none =>
    rw [(step_of_no_order b ho).1]
    exact delivered_of_chain List.isChain_nil fun p hp => nomatch hp
  | some o =>
    rw [(step_performed ho).1]
    exact o.exchange_delivered b w.received w.endpoints

theorem run_delivered (w : World) (es : List (Backend × Step)) :
    ∀ d ∈ w.dialogues es, Delivered w.endpoints.base d := by
  induction es generalizing w with
  | nil => exact fun d hd => nomatch hd
  | cons p es ih =>
    obtain ⟨b, s⟩ := p
    rw [dialogues, List.forall_mem_cons]
    refine ⟨step_delivered w b s, ?_⟩
    rw [← step_endpoints w b s]
    exact ih _

/-- **Where data goes in a run.** Whatever the backends answer, every exchange begins at the server
of the base, and a body is sent to another server exactly where a redirect that repeats requests
names one. -/
theorem delivered_of_run (e : Endpoints) (max : Nat) (es : List (Backend × Step)) :
    ((start e max).dialogues es).map (List.map Prod.fst) =
        ((start e max).run es).2.map Report.requests ∧
      ∀ d ∈ (start e max).dialogues es, Delivered e.base d :=
  ⟨dialogues_requests _ es, run_delivered _ es⟩

/-- A TAN whose confirmation is redirected to another server, as it is. -/
def diverted : List (Backend × Step) :=
  [(.ofList [.answer
      { status := 307, location := some (Text.Utf8.encode "http://other.local/".toList) }],
    .direct { tan := some "X71" } .confirmTan)]

/-- The other server gets it. -/
theorem diverted_tan :
    ∃ r ∈ ((start .small 1).run diverted).2.flatMap Report.requests,
      "X71".toList <:+: r.bodyText.toList ∧ ¬ r.url.SameServer Endpoints.small.base := by
  decide +kernel

end World

end Teller
