import Teller.Proofs.Endpoints
import Teller.Proofs.Session.Blind
import Teller.Proofs.Session.Pending

/-!
# Decisions given as texts

A decision on a consent can be given as a word or as a text that reads as one. Awaited at once, the
two are the same call. But a call that waits has its record from the time when it was begun only if
its decision is a word; by a text, it sends what its session holds when it is awaited.

* `perform_consent_congr`, `consent_of_requests`: one decision with two records does the same
  exactly where the records differ in their TANs at most, or nothing is sent.
* `Overtaken`: one decision that waits as a text and as a word; `overtaken_of_run`: what the two do
  when they are awaited, after whatever was done in between.
* `text_sends_later_record`: a run in which they do not do the same.
-/

namespace Teller

open Http (Request Backend)

/-- Two records say the same of a consent exactly if they differ in their TANs at most. -/
theorem Record.consentBody_inj {r r' : Record} :
    r.consentBody = r'.consentBody ↔ r.withoutTan = r'.withoutTan := by
  simp [consentBody, consentMembers, withoutTan]

/-- Sessions that were made stay made. -/
theorem History.made_append (h g : History) : made (h ++ g) = h.made + g.made :=
  List.countP_append

namespace World

variable {w : World} {b : Backend} {before now : Record} {d : Decision}

/-! ## One decision with two records -/

/-- A decision is the same call with two records that say the same, and with any two if it does not
reach the backend. -/
theorem perform_consent_congr
    (h : before.withoutTan = now.withoutTan ∨
      (w.perform b (.consent now d)).2.requests = [] ∧
        (w.perform b (.consent before d)).2.requests = []) :
    w.perform b (.consent now d) = w.perform b (.consent before d) := by
  have hx : (Order.consent now d).exchange b w.received w.endpoints =
      (Order.consent before d).exchange b w.received w.endpoints := by
    rcases h with h | ⟨hnow, hbefore⟩
    · exact Order.exchange_congr rfl rfl (congrArg some (Record.consentBody_inj.2 h).symm)
    · exact Order.exchange_of_unsent rfl hbefore hnow
  simp only [perform, Order.perform, hx, Order.call]

/-- A backend that gets the same decision with two records gets nothing, or the records say the
same. -/
theorem consent_of_requests
    (h : (w.perform b (.consent now d)).2.requests = (w.perform b (.consent before d)).2.requests) :
    before.withoutTan = now.withoutTan ∨
      (w.perform b (.consent now d)).2.requests = [] ∧
        (w.perform b (.consent before d)).2.requests = [] := by
  cases hq : (w.perform b (.consent now d)).2.requests with
  | nil => exact Or.inr ⟨rfl, h.symm.trans hq⟩
  | cons q qs =>
    -- The first request has the body of whichever record it was made of.
    have hnow : q.body = some now.consentBody := Order.exchange_head (congrArg List.head? hq)
    have hbefore : q.body = some before.consentBody :=
      Order.exchange_head (congrArg List.head? (h.symm.trans hq))
    exact Or.inl (Record.consentBody_inj.1 (Option.some.inj (hbefore.symm.trans hnow)))

/-! ## Decisions that wait -/

/-- **One decision that waits** under a number, in one world as a text and in another as a word. Its
session held one record before, when the call was begun, and another one now. -/
structure Overtaken (k : Nat) (d : Decision) (before now : Record) (asText asWord : World) :
    Prop where
  /-- By a text, the decision is sent with the record of now. -/
  text : ∀ b, asText.step b (.await k) =
    ((asText.step b (.direct now (.decide d))).1.put k none,
      (asText.step b (.direct now (.decide d))).2)
  /-- By a word, it is sent with the record of before. -/
  word : ∀ b, asWord.step b (.await k) =
    ((asWord.step b (.direct before (.decide d))).1.put k none,
      (asWord.step b (.direct before (.decide d))).2)
  /-- They are the same call exactly where the TAN is all that has changed, or nothing is sent. -/
  agree : ∀ b, asText.step b (.await k) = asWord.step b (.await k) ↔
    before.withoutTan = now.withoutTan ∨
      (asText.step b (.await k)).2.requests = [] ∧ (asWord.step b (.await k)).2.requests = []

/-- A decision that is begun as a text and as a word waits so, whatever is done in between. -/
theorem overtaken_of_begun {r : SessionRef} {cell : Cell} {text : String}
    {fs : List (Backend × Step)} (b₀ : Backend) (hr : w.resolve r = .ok cell)
    (hd : Decision.ofText? text = some d)
    (hf : ∀ f ∈ fs, f.2.takes w.pending.length = false) (hbefore : w.recordAt cell = before)
    (hnow : (w.run ((b₀, .begin r (.decideText text)) :: fs)).1.recordAt cell = now) :
    Overtaken w.pending.length d before now (w.run ((b₀, .begin r (.decideText text)) :: fs)).1
      (w.run ((b₀, .begin r (.decide d)) :: fs)).1 := by
  have htext (b : Backend) := step_await_begun hr b₀ b (.decideText text) fs hf
  have hword (b : Backend) := step_await_begun hr b₀ b (.decide d) fs hf
  simp only [await, pendingOf, hnow, performText_of_some hd] at htext
  simp only [await, pendingOf, hbefore] at hword
  refine ⟨htext, hword, ?_⟩
  intro b
  rw [htext, hword, run_begin hr b₀ _ fs hf, run_begin hr b₀ _ fs hf]
  -- The two worlds differ in what waits, and a call is made whatever waits.
  simp only [perform_put, put_put]
  constructor
  · intro h
    exact consent_of_requests (congrArg (fun x => x.2.requests) h)
  · intro h
    rw [perform_consent_congr h]

/-- **Decisions by text and by word.** After every run, a session's decision is the same call by a
text as by the word that it reads as, if it is awaited at once. Begun now and awaited later, it goes
unseen until then, and is the same call exactly where nothing reaches the backend, or the record
that the session holds by then differs in its TAN at most from the one that it held before. -/
theorem overtaken_of_run (e : Endpoints) (max : Nat) (es fs : List (Backend × Step)) (b₀ : Backend)
    (r : SessionRef) (cell : Cell) (text : String) (d : Decision)
    (hn : ((start e max).history es).named? r = some cell)
    (hd : Decision.ofText? text = some d)
    (hf : ∀ f ∈ fs, f.2.takes ((start e max).run es).1.pending.length = false) :
    let w := start e max
    let v := (w.run es).1
    let asText := es ++ (b₀, .begin r (.decideText text)) :: fs
    let asWord := es ++ (b₀, .begin r (.decide d)) :: fs
    (∀ b, v.step b (.call r (.decideText text)) = v.step b (.call r (.decide d))) ∧
      (w.run asText).2 = (w.run asWord).2 ∧
      ∃ before now, (w.history es).last? cell = some before ∧
        (w.history asText).last? cell = some now ∧
        Overtaken v.pending.length d before now (w.run asText).1 (w.run asWord).1 := by
  intro w v asText asWord
  have hv : Stored (w.history es) v := run_stored e max es
  have hlt := History.named?_lt hn
  obtain ⟨before, hbefore⟩ := hv.last_isSome hlt
  have hr := hv.resolve hn
  have hlater : cell < (w.history asText).made := by
    rw [history_append, History.made_append]
    exact Nat.lt_add_left _ hlt
  have hs : Stored (w.history asText) (w.run asText).1 := run_stored e max asText
  obtain ⟨now, hnow⟩ := hs.last_isSome hlater
  refine ⟨?_, ?_, before, now, hbefore, hnow, ?_⟩
  · intro b
    simp only [step, withCell_of_ok hr, await, pendingOf, performText_of_some hd]
  · simp only [asText, asWord, run_append]
    show _ ++ (v.run _).2 = _ ++ (v.run _).2
    rw [run_begin hr b₀ _ fs hf, run_begin hr b₀ _ fs hf]
  · have hrecord := hs.recordAt hnow
    simp only [asText, asWord, run_append] at hrecord ⊢
    exact overtaken_of_begun b₀ hr hd hf (hv.recordAt hbefore) hrecord

/-- A session with one payment. -/
def opening : List (Backend × Step) := [(.unreachable, .detached { paymentId := "p1" })]

/-- Its payment is replaced. -/
def replacing : List (Backend × Step) := [(.unreachable, .save (.held 0) { paymentId := "p2" })]

theorem overtaken_by_save :
    ((start .small 1).history opening).named? (.held 0) = some 0 ∧
      Decision.ofText? "accepted" = some .accepted ∧
      (∀ f ∈ replacing, f.2.takes ((start .small 1).run opening).1.pending.length = false) ∧
      Overtaken 0 .accepted { paymentId := "p1" } { paymentId := "p2" }
        ((start .small 1).run
          (opening ++ (.unreachable, .begin (.held 0) (.decideText "accepted")) :: replacing)).1
        ((start .small 1).run
          (opening ++ (.unreachable, .begin (.held 0) (.decide .accepted)) :: replacing)).1 := by
  have hd : Decision.ofText? "accepted" = some .accepted := by decide +kernel
  obtain ⟨-, -, before, now, hbefore, hnow, h⟩ :=
    overtaken_of_run .small 1 opening replacing .unreachable (.held 0) 0 "accepted" .accepted
      (by decide) hd (by decide)
  cases hbefore
  cases hnow
  exact ⟨by decide, hd, by decide, h⟩

/-- What the backend gets of a decision that is begun, overtaken and awaited. -/
def overtakenBodies (d : Demand) : List String :=
  let es := opening ++ (.unreachable, .begin (.held 0) d) :: replacing ++ [(.ofList [], .await 0)]
  ((start .small 1).run es).2.flatMap fun r => r.requests.map Request.bodyText

/-- By a text, the payment is sent that was saved later; by the word that it reads as, the one that
the session held when the call was begun. -/
theorem text_sends_later_record :
    Decision.ofText? "accepted" = some .accepted ∧
      overtakenBodies (.decideText "accepted") =
        ["\x7b\"iban\":\"\",\"consentId\":\"\",\"paymentId\":\"p2\"\x7d"] ∧
      overtakenBodies (.decide .accepted) =
        ["\x7b\"iban\":\"\",\"consentId\":\"\",\"paymentId\":\"p1\"\x7d"] := by
  decide +kernel

end World

end Teller
