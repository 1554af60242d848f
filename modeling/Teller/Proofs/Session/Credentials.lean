import Teller.Proofs.Session.Destination
import Teller.Proofs.Settings.Base

/-!
# In whose name requests are sent

A base URL may name a user. Checking settings does not ask for that, and the name and the password
of the user go into a header of the first request of every call. They stay there as long as
redirects lead to the same host and port; once a redirect has led elsewhere they are gone for good.
No answer brings in a user of its own.

* `Http.credentials?`: the header for the user of a URL.
* `Authenticated`: which requests of a dialogue have it; `authenticated_of_chain`: so it is wherever
  requests follow from one another.
* `Url.credentials?_eq_none`: a text without an at sign names nobody.
* `World.authenticated_of_run`: which requests of a run have it, for all settings without problems.
* `World.guarded_asks`: such settings, and a request in somebody's name.
-/

namespace Teller

open Http (Request Reply Backend Follows)

namespace Http

/-- The header for the user that a URL names, if it names one. -/
def credentials? (url : Url) : Option String := (user? url).map fun u => basic u.1 u.2

/-- The user of a URL is part of its authority. -/
theorem credentials?_congr {u v : Url} (h : u.authority = v.authority) :
    credentials? u = credentials? v := by
  unfold credentials? user?
  rw [h]

theorem sameHost_iff {u v : Url} : sameHost u v = true ↔ u.host? = v.host? ∧ u.port? = v.port? := by
  unfold sameHost
  rw [Bool.and_eq_true, beq_iff_eq, beq_iff_eq]

end Http

/-! ## Along a chain -/

open Http (credentials? sameHost)

/-- **In whose name requests are sent**, among requests with the replies to them, below a base. -/
structure Authenticated (base : Url) (d : List (Request × Reply)) : Prop where
  first : ∀ p ∈ d.head?, p.1.authorization = credentials? base
  /-- A request names the user of the base exactly if neither it nor any request before it goes to
  another host or port. -/
  named : ∀ front q, front ++ [q] <+: d →
    q.1.authorization =
      if ∀ p ∈ front ++ [q], sameHost p.1.url base = true then credentials? base else none

/-- What becomes of the header from one request to the next. -/
theorem Http.Follows.authorization {p q : Request × Reply} (h : Follows p q) :
    q.1.authorization = if sameHost q.1.url p.1.url then p.1.authorization else none := by
  obtain ⟨a, url, -, -, hq⟩ := h
  rw [hq]
  rfl

/-- **Requests that follow from one another** keep to this, if the first of them does. -/
theorem authenticated_of_chain {base : Url} {d : List (Request × Reply)} (hd : d.IsChain Follows)
    (hfirst : ∀ p ∈ d.head?, sameHost p.1.url base = true ∧ p.1.authorization = credentials? base) :
    Authenticated base d := by
  refine ⟨fun p hp => (hfirst p hp).2, fun front => ?_⟩
  -- Each request but the first one follows from the last one in front of it.
  induction front using List.reverseRecOn with
  | nil =>
    rintro q ⟨behind, rfl⟩
    obtain ⟨hsame, hheader⟩ := hfirst q rfl
    have hall : ∀ p ∈ [q], sameHost p.1.url base = true := List.forall_mem_singleton.2 hsame
    rw [hheader, List.nil_append, if_pos hall]
  | append_singleton front p ih =>
    intro q hq
    have hp : front ++ [p] <+: d := (List.prefix_append _ _).trans hq
    have hpq : Follows p q := by
      have hinfix : [p, q] <:+: d := by
        refine List.IsInfix.trans ⟨front, [], ?_⟩ hq.isInfix
        rw [List.append_nil, List.append_assoc]
        rfl
      exact (List.isChain_cons_cons.1 <| List.IsChain.infix hd hinfix).1
    rw [hpq.authorization, ih p hp]
    by_cases hall : ∀ m ∈ front ++ [p], sameHost m.1.url base = true
    · -- So far, everything went to the host of the base.
      obtain ⟨hhost, hport⟩ := Http.sameHost_iff.1 (hall p (by simp))
      have hstep : sameHost q.1.url p.1.url = sameHost q.1.url base := by
        unfold sameHost
        rw [hhost, hport]
      rw [if_pos hall, hstep]
      refine if_congr ?_ rfl rfl
      rw [List.forall_mem_append, List.forall_mem_singleton]
      exact (and_iff_right hall).symm
    · have hmore : ¬ ∀ m ∈ front ++ [p] ++ [q], sameHost m.1.url base = true :=
        fun h => hall (List.forall_mem_append.1 h).1
      rw [if_neg hall, if_neg hmore, ite_self]

namespace Authenticated

variable {base base' : Url} {d : List (Request × Reply)}

/-- Of a base, only scheme and authority matter. -/
theorem congr (h : Authenticated base d) (hs : base.scheme = base'.scheme)
    (ha : base.authority = base'.authority) : Authenticated base' d := by
  obtain ⟨-, hhost, hport⟩ := Url.sameServer_of_authority hs ha
  have hsame (u : Url) : sameHost u base' = sameHost u base := by
    unfold sameHost
    rw [hhost, hport]
  constructor
  · rw [← Http.credentials?_congr ha]
    exact h.first
  · simp only [hsame, ← Http.credentials?_congr ha]
    exact h.named

/-- No request has any other header. -/
theorem mem (h : Authenticated base d) {q : Request × Reply} (hq : q ∈ d) :
    q.1.authorization = credentials? base ∨ q.1.authorization = none := by
  obtain ⟨front, behind, rfl⟩ := List.append_of_mem hq
  rw [h.named front q ⟨behind, by simp⟩]
  split
  · exact Or.inl rfl
  · exact Or.inr rfl

end Authenticated

/-! ## Calls -/

namespace Order

/-- **The request of an order** is made in the name of the user of the base. -/
theorem authorization_of_request {e : Endpoints} {o : Order} {r : Request}
    (h : o.request e = .ok r) : r.authorization = credentials? e.base := by
  exact (Http.prepare_spec h).1.trans (Http.credentials?_congr (o.url_front e).2)

/-- What is sent for an order. -/
theorem exchange_authenticated (b : Backend) (received : List Request) (e : Endpoints)
    (o : Order) :
    Authenticated e.base (Http.dialogue b received (o.exchange b received e).requests) := by
  unfold exchange
  cases hr : o.request e with
  | error fault => exact authenticated_of_chain List.isChain_nil fun p hp => nomatch hp
  | ok r =>
    have hx := Http.follow_exchanges b r.url Http.maxRedirects received r
    refine authenticated_of_chain hx.chain fun p hp => ?_
    rw [Http.dialogue_head?, Option.mem_def, Option.map_eq_some_iff] at hp
    obtain ⟨q, hq, rfl⟩ := hp
    rw [hx.head hq]
    exact ⟨Http.sameHost_iff.2 (sameServer_request hr).2, authorization_of_request hr⟩

end Order

/-! ## Texts without a user -/

namespace Url

/-- What a scheme stands in front of is part of the text. -/
theorem subset_of_splitScheme? {cs behind : List Char} {scheme : String}
    (h : splitScheme? cs = some (scheme, behind)) : behind ⊆ cs := by
  obtain ⟨c, area, rfl, -⟩ := splitScheme?_eq_some_iff.1 h
  intro x hx
  simp [hx]

theorem subset_splitMark (mark : Char) (cs : List Char) : (splitMark mark cs).1 ⊆ cs := by
  induction cs with
  | nil => exact List.Subset.refl _
  | cons c cs ih =>
    rw [splitMark]
    split
    · exact List.nil_subset _
    · exact List.cons_subset_cons c ih

theorem subset_front (cs : List Char) : (Parts.of cs).front ⊆ cs :=
  List.Subset.trans (subset_splitMark '?' _) (subset_splitMark '#' cs)

theorem subset_cleaned (cs : List Char) : cleaned cs ⊆ cs := by
  intro c hc
  have hc := List.mem_reverse.1 (List.mem_filter.1 hc).1
  exact List.dropWhile_subset _ (List.mem_reverse.1 (List.dropWhile_subset _ hc))

/-- Without an at sign there is no user. -/
theorem splitUser_eq_none {m : Manner} {cs : List Char} (h : '@' ∉ cs) :
    (splitUser m cs).1 = none := by
  have harea : ∀ c ∈ (cs.takeWhile (!m.isSlash ·)).reverse, decide (c ≠ '@') = true := by
    intro c hc
    rw [decide_eq_true_eq]
    rintro rfl
    exact h (List.takeWhile_subset _ (List.mem_reverse.1 hc))
  unfold splitUser splitSlash
  dsimp only
  rw [List.takeWhile_eq_self_iff.2 harea, List.reverse_reverse, if_neg (Nat.lt_irrefl _)]

/-- **A text without an at sign** names nobody. -/
theorem credentials?_eq_none {s : String} {u : Url} (h : ofText s = .ok u) (hweb : u.manner = .web)
    (hat : '@' ∉ s.toList) : credentials? u = none := by
  obtain ⟨scheme, behind, a, rest, hscheme, -, hread, rfl⟩ := ofText_web_iff.1 ⟨h, hweb⟩
  obtain ⟨user, after, -, -, hsplit, -, -, -, -, hnamed, -⟩ := readAuthority_eq_ok.1 hread
  have hnone : user = none := by
    have hfront : '@' ∉ (Parts.of behind).front.dropWhile Manner.web.isSlash := by
      intro hmem
      refine hat (subset_cleaned _ (subset_of_splitScheme? hscheme (subset_front _ ?_)))
      exact List.dropWhile_subset _ hmem
    rw [← splitUser_eq_none hfront, hsplit]
  rw [hnone] at hnamed
  obtain ⟨name, password, host, port⟩ := a
  obtain ⟨rfl, rfl⟩ := Prod.mk.inj hnamed
  have hempty : Http.plainText? [] = some [] := by
    simp [Http.plainText?, unescape, Text.Utf8.decode?, Text.Utf8.runs]
  show Option.map _ ((Http.plainText? []).bind _) = none
  rw [hempty]
  rfl

end Url

/-! ## Runs -/

namespace World

variable {w : World}

/-- What a step sends. -/
theorem step_authenticated (w : World) (b : Backend) (s : Step) :
    Authenticated w.endpoints.base (Http.dialogue b w.received (w.step b s).2.requests) := by
  cases ho : w.order? s with
  | none =>
    rw [(step_of_no_order b ho).1]
    exact authenticated_of_chain List.isChain_nil fun p hp => nomatch hp
  | some o =>
    rw [(step_performed ho).1]
    exact o.exchange_authenticated b w.received w.endpoints

theorem run_authenticated (w : World) (es : List (Backend × Step)) :
    ∀ d ∈ w.dialogues es, Authenticated w.endpoints.base d := by
  induction es generalizing w with
  | nil => exact fun d hd => nomatch hd
  | cons p es ih =>
    obtain ⟨b, s⟩ := p
    rw [dialogues, List.forall_mem_cons]
    refine ⟨step_authenticated w b s, ?_⟩
    rw [← step_endpoints w b s]
    exact ih _

/-- **In whose name a run asks**, where the base URL of some settings was checked as `base`. -/
structure Asked (s : Settings) (base : Url) (ds : List (List (Request × Reply))) : Prop where
  authenticated : ∀ d ∈ ds, Authenticated base d
  /-- There is a request in somebody's name exactly if the base names a user and anything is sent at
  all. -/
  somebody : (∃ d ∈ ds, ∃ q ∈ d, q.1.authorization ≠ none) ↔
    credentials? base ≠ none ∧ ∃ d ∈ ds, d ≠ []
  /-- Without an at sign in the text of the base URL there is none. -/
  nobody : '@' ∉ s.backend.baseUrl.toList → ∀ d ∈ ds, ∀ q ∈ d, q.1.authorization = none

/-- **In whose name requests are sent**, with settings without problems, in every run and whatever
the backends answer. -/
theorem authenticated_of_run {s : Settings} (hs : s.problems = []) (max : Nat)
    (es : List (Backend × Step)) :
    ∃ base e, Url.ofText s.backend.baseUrl = .ok base ∧
      Endpoints.ofSettings s = .ok (e, [e.ready]) ∧
      ((start e max).dialogues es).map (List.map Prod.fst) =
        ((start e max).run es).2.map Report.requests ∧
      Asked s base ((start e max).dialogues es) := by
  obtain ⟨base, hbase, hweb⟩ := Settings.problems_eq_nil_iff.1 hs .baseUrl
  obtain ⟨⟨e, he, -⟩, -⟩ : TakenAsBase s.backend.baseUrl s.backend.confirmationPath :=
    takenAsBase_of_checked (Settings.baseUrlFault?_eq_none_iff.2 ⟨base, hbase, hweb⟩)
  obtain ⟨hscheme, hauthority, -⟩ := base_of_checked hbase hweb he
  have hall : ∀ d ∈ (start e max).dialogues es, Authenticated base d := fun d hd =>
    (run_authenticated (start e max) es d hd).congr hscheme hauthority
  refine ⟨base, e, hbase, by rw [Endpoints.ofSettings, he]; rfl, dialogues_requests _ es, hall,
    ⟨?_, ?_⟩, fun hat d hd q hq => ?_⟩
  · rintro ⟨d, hd, q, hq, hsome⟩
    refine ⟨fun hnone => ?_, d, hd, List.ne_nil_of_mem hq⟩
    rcases (hall d hd).mem hq with h | h
    · exact hsome (h.trans hnone)
    · exact hsome h
  · rintro ⟨hsome, d, hd, hne⟩
    obtain ⟨q, d', rfl⟩ := List.exists_cons_of_ne_nil hne
    refine ⟨_, hd, q, List.mem_cons_self, ?_⟩
    rw [(hall _ hd).first q rfl]
    exact hsome
  · have hnone : credentials? base = none :=
      Url.credentials?_eq_none hbase (Url.manner_of_scheme hweb.1) hat
    rcases (hall d hd).mem hq with h | h
    · exact h.trans hnone
    · exact h

/-- Settings whose base URL names a user. -/
def guarded : Settings := { backend := { baseUrl := "http://u:p@bank.local" } }

/-- A TAN is confirmed there; redirects lead to another page, to another host and back again. -/
def wandering : List (Backend × Step) :=
  let redirect (text : String) : Reply :=
    .answer { status := 307, location := some (Text.Utf8.encode text.toList) }
  [(.ofList [redirect "/a", redirect "http://other.local/b", redirect "http://bank.local/c"],
    .direct { tan := some "X71" } .confirmTan)]

theorem authenticated_wandering :
    guarded.problems = [] ∧
      ∃ base e, Url.ofText guarded.backend.baseUrl = .ok base ∧
        Endpoints.ofSettings guarded = .ok (e, [e.ready]) ∧
        ((start e 1).dialogues wandering).map (List.map Prod.fst) =
          ((start e 1).run wandering).2.map Report.requests ∧
        Asked guarded base ((start e 1).dialogues wandering) :=
  ⟨by decide +kernel, authenticated_of_run (by decide +kernel) 1 wandering⟩

/-- The endpoints that they name. -/
def guardedEndpoints : Endpoints :=
  ⟨⟨"http", some ⟨['u'], some ['p'], some (.name "bank.local".toList), none⟩, .rooted [[]], none,
    none⟩, .payment, rfl, rfl⟩

/-- **Requests are sent in somebody's name**, with settings without problems. -/
theorem guarded_asks :
    guarded.problems = [] ∧
      Endpoints.ofSettings guarded = .ok (guardedEndpoints, [guardedEndpoints.ready]) ∧
      (((start guardedEndpoints 1).run wandering).2.flatMap Report.requests).map
        Request.authorization = [some "Basic dTpw", some "Basic dTpw", none, none] := by
  have hu : Url.ofText (Text.trim guarded.backend.baseUrl) = .ok guardedEndpoints.base := by
    decide +kernel
  refine ⟨by decide +kernel, ?_, by decide +kernel⟩
  unfold Endpoints.ofSettings Endpoints.ofText
  rw [hu]
  rfl

end World

end Teller
