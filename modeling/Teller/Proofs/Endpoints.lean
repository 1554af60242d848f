import Teller.Proofs.Client

/-!
# The server of a base

All requests for calls go to the server of their base: whatever an id or a decision says, it changes
nothing in front of the path.

* `Url.SameServer`: two URLs of one scheme, host and port.
* `Endpoints.small`: endpoints for examples.
* `Order.sameServer_url`, `Order.sameServer_request`: the URL of an order, and of its request, are
  on the server of the base.
* `Order.request_ok_iff`: when an order can be sent.
-/

namespace Teller

open Http (Request)

namespace Url

/-- Two URLs of one server: of the same scheme, host and port. -/
def SameServer (u v : Url) : Prop := u.scheme = v.scheme ∧ u.host? = v.host? ∧ u.port? = v.port?

instance (u v : Url) : Decidable (SameServer u v) :=
  inferInstanceAs (Decidable (u.scheme = v.scheme ∧ u.host? = v.host? ∧ u.port? = v.port?))

theorem SameServer.symm {u v : Url} (h : SameServer u v) : SameServer v u :=
  ⟨h.1.symm, h.2.1.symm, h.2.2.symm⟩

theorem SameServer.trans {u v w : Url} (h : SameServer u v) (h' : SameServer v w) :
    SameServer u w :=
  ⟨h.1.trans h'.1, h.2.1.trans h'.2.1, h.2.2.trans h'.2.2⟩

/-- Scheme and authority tell the server. -/
theorem sameServer_of_authority {u v : Url} (hs : u.scheme = v.scheme)
    (ha : u.authority = v.authority) : SameServer u v := by
  refine ⟨hs, ?_, ?_⟩
  · rw [host?, host?, ha]
  · rw [port?, port?, ha, hs]

/-- The user of a URL is not part of the server. -/
theorem sameServer_withoutUser (u : Url) : SameServer u.withoutUser u := by
  refine ⟨rfl, ?_, ?_⟩
  · cases h : u.authority <;> simp [withoutUser, host?, h]
  · cases h : u.authority <;> simp [withoutUser, port?, h]

end Url

/-- A small bank: `http://bank.local`. -/
def Endpoints.small : Endpoints :=
  ⟨⟨"http", some ⟨[], none, some (.name "bank.local".toList), none⟩, .rooted [[]], none, none⟩,
    .payment, rfl, rfl⟩

namespace Order

/-- The URL of an order has the scheme and the authority of the base. -/
theorem url_front (e : Endpoints) (o : Order) :
    (o.url e).scheme = e.base.scheme ∧ (o.url e).authority = e.base.authority := by
  cases o <;> exact ⟨rfl, rfl⟩

/-- **The URL of an order** is on the server of the base. -/
theorem sameServer_url (e : Endpoints) (o : Order) : (o.url e).SameServer e.base :=
  Url.sameServer_of_authority (o.url_front e).1 (o.url_front e).2

/-- **The request of an order** goes to the server of the base. -/
theorem sameServer_request {e : Endpoints} {o : Order} {r : Request} (h : o.request e = .ok r) :
    r.url.SameServer e.base := by
  obtain ⟨url, authorization, hurl, hr | hr⟩ := o.request_cases e
  · rw [hr] at h
    cases h
    rcases hurl with rfl | rfl
    · exact o.sameServer_url e
    · exact (Url.sameServer_withoutUser _).trans (o.sameServer_url e)
  · rw [hr] at h
    cases h

/-- A host that can stand in a request is one without the user as well. -/
theorem hasPlainHost_withoutUser (u : Url) :
    Http.hasPlainHost u.withoutUser = Http.hasPlainHost u := by
  unfold Http.hasPlainHost
  rw [(Url.sameServer_withoutUser u).2.1]

/-- **An order can be sent** exactly if its URL is on the web and its host can stand in a
request. -/
theorem request_ok_iff {e : Endpoints} {o : Order} :
    (∃ r, o.request e = .ok r) ↔
      Http.isWeb (o.url e) = true ∧ Http.hasPlainHost (o.url e) = true := by
  -- The user of the URL, which goes into a header, has no say in it.
  have hprepared {url : Url} {request : Request} {p : Prop} [Decidable p] :
      (∃ r, (if p then .ok request
        else .error (.building url) : Except Http.TransportFault Request) = .ok r) ↔ p := by
    split <;> simp [*]
  unfold request Request.prepare
  cases Http.user? (o.url e) with
  | none => exact hprepared
  | some user =>
    dsimp only
    rw [hasPlainHost_withoutUser]
    exact hprepared

end Order

end Teller
