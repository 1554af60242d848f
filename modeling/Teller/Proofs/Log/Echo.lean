import Teller.Proofs.Client
import Teller.Proofs.Json.Syntax
import Teller.Proofs.Log.Wording
import Teller.Proofs.Url.Characters

/-!
# What answers bring into the log

Of everything that a call logs, three things come from the answering party: a URL that it sent the
client to, the body of an answer that is no success, and what is at fault with a payment. The log
repeats them as they are. All the rest is wording, or part of the URL that the call goes to.

* `Order.echoes`: the three; `Repeats`: a log that tells nothing but wording and some texts.
* `Order.perform_repeats`: the log of a call repeats its echoes, and has no other text with a
  character that neither the wording nor the call's URL has.
-/

namespace Teller

open Http (Request Answer Backend)

/-- **What an answering party brings into the log of a call.** -/
def Order.echoes (call : Call) : Except Http.TransportFault (Url × Answer) → List String
  | .error (.building url) | .error (.redirecting url) => [url.text]
  | .error _ => []
  | .ok (url, a) =>
    url.text ::
      match interpret call a with
      | .error (.status _ body) => [body]
      | .error (.decode .singlePayments e) => [e.message]
      | _ => []

/-- A log and the texts that it repeats. Whatever of it has a character of interest repeats one of
the texts, and each of them is repeated. -/
structure Repeats (c : Char) (log : List Event) (texts : List String) : Prop where
  only : ∀ ev ∈ log, c ∉ ev.line.toList ∨ ∃ x ∈ texts, Holds ev.line.toList x.toList
  all : ∀ x ∈ texts, ∃ ev ∈ log, Holds ev.line.toList x.toList

variable {c : Char} {log log' : List Event} {texts texts' : List String}

theorem repeats_nil (h : ∀ ev ∈ log, c ∉ ev.line.toList) : Repeats c log [] :=
  ⟨fun ev hev => Or.inl (h ev hev), fun _ hx => nomatch hx⟩

theorem Repeats.append (h : Repeats c log texts) (h' : Repeats c log' texts') :
    Repeats c (log ++ log') (texts ++ texts') := by
  constructor
  · intro ev hev
    rcases List.mem_append.1 hev with hev | hev
    · refine (h.only ev hev).imp_right ?_
      rintro ⟨x, hx, hh⟩
      exact ⟨x, List.mem_append_left _ hx, hh⟩
    · refine (h'.only ev hev).imp_right ?_
      rintro ⟨x, hx, hh⟩
      exact ⟨x, List.mem_append_right _ hx, hh⟩
  · intro x hx
    rcases List.mem_append.1 hx with hx | hx
    · obtain ⟨ev, hev, hh⟩ := h.all x hx
      exact ⟨ev, List.mem_append_left _ hev, hh⟩
    · obtain ⟨ev, hev, hh⟩ := h'.all x hx
      exact ⟨ev, List.mem_append_right _ hev, hh⟩

theorem repeats_singleton {ev : Event} {x : String} (h : Holds ev.line.toList x.toList) :
    Repeats c [ev] [x] := by
  constructor
  · intro ev' hev
    rw [List.mem_singleton.1 hev]
    exact Or.inr ⟨x, List.mem_singleton_self x, h⟩
  · intro x' hx
    rw [List.mem_singleton.1 hx]
    exact ⟨ev, List.mem_singleton_self ev, h⟩

/-- A failure whose reason has the character of interest only where it repeats a text. -/
theorem repeats_failed (call : Call) {reason x : String} (h : Holds reason.toList x.toList) :
    Repeats c [.failed call reason] [x] :=
  repeats_singleton ((Event.holds_failed call reason).trans h)

theorem not_mem_failed (hc : Unworded c) (call : Call) {reason : String}
    (h : c ∉ reason.toList) : c ∉ (Event.failed call reason).line.toList := by
  rwa [(Event.holds_failed call reason).mem_iff hc]

/-! ## Reasons -/

/-- A URL in a message. -/
theorem holds_of_url {message : String} (front : String) (hw : front ∈ Event.wording)
    (hm : ∃ d ∈ "= (".toList, front.toList.getLast? = some d) (url : Url)
    (h : message.toList = front.toList ++ url.text.toList ++ ")".toList) :
    Holds message.toList url.text.toList := by
  refine ⟨front.toList, ")".toList, h, worded_of_mem hw, ?_, hm, ?_⟩
  · exact worded_of_mem (by simp [Event.wording])
  · intro d hd
    cases hd
    decide

theorem holds_sending (url : Url) :
    Holds (CallError.transport (.sending url)).message.toList url.text.toList := by
  refine holds_of_url "Transport error: error sending request for url ("
    (by simp [Event.wording]) ⟨'(', by simp, by simp⟩ url ?_
  show ("Transport error: " ++ ("error sending request for url (" ++ url.text ++ ")")).toList = _
  simp [String.toList_append]

theorem holds_building (url : Url) :
    Holds (CallError.transport (.building url)).message.toList url.text.toList := by
  refine holds_of_url "Transport error: builder error for url ("
    (by simp [Event.wording]) ⟨'(', by simp, by simp⟩ url ?_
  show ("Transport error: " ++ ("builder error for url (" ++ url.text ++ ")")).toList = _
  simp [String.toList_append]

theorem holds_redirecting (url : Url) :
    Holds (CallError.transport (.redirecting url)).message.toList url.text.toList := by
  refine holds_of_url "Transport error: error following redirect for url ("
    (by simp [Event.wording]) ⟨'(', by simp, by simp⟩ url ?_
  show ("Transport error: " ++ ("error following redirect for url (" ++ url.text ++ ")")).toList = _
  simp [String.toList_append]

theorem worded_reading : Worded (CallError.transport .reading).message.toList := by
  show Worded ("Transport error: " ++ "error decoding response body").toList
  exact worded_of_mem (t := "Transport error: " ++ "error decoding response body")
    (by simp [Event.wording])

/-- A text at the end of a message. -/
theorem holds_of_end {message x : String} (front : List Char) (hw : Worded front)
    (hm : front.getLast? = some ' ') (h : message.toList = front ++ x.toList) :
    Holds message.toList x.toList := by
  refine ⟨front, [], ?_, hw, ?_, ⟨' ', by simp, hm⟩, fun _ hd => nomatch hd⟩
  · rw [h, List.append_nil]
  · exact fun _ hc => nomatch hc

theorem holds_status (code : Nat) (body : String) :
    Holds (CallError.status code body).message.toList body.toList := by
  have hcode : (toString code).toList = Nat.toDigits 10 code := Nat.toList_repr
  refine holds_of_end
    ("Backend returned status ".toList ++ Nat.toDigits 10 code ++ ": ".toList) ?_ ?_ ?_
  · rw [worded_append, worded_append]
    exact ⟨⟨worded_of_mem (by simp [Event.wording]), worded_toDigits code⟩,
      worded_of_mem (by simp [Event.wording])⟩
  · rw [List.getLast?_append]
    simp
  · show ("Backend returned status " ++ toString code ++ ": " ++ body).toList = _
    simp only [String.toList_append, hcode]

theorem holds_decode (call : Call) (e : Json.Error) :
    Holds (CallError.decode call e).message.toList e.message.toList := by
  refine holds_of_end
    ("Failed to decode ".toList ++ call.label.toList ++ " response: ".toList) ?_ ?_ ?_
  · rw [worded_append, worded_append]
    exact ⟨⟨worded_of_mem (by simp [Event.wording]), worded_label call⟩,
      worded_of_mem (by simp [Event.wording])⟩
  · rw [List.getLast?_append]
    simp
  · show ("Failed to decode " ++ call.label ++ " response: " ++ e.message).toList = _
    simp only [String.toList_append]

/-- A fault of syntax is told in the wording alone. -/
theorem worded_of_plain {e : Json.Error} (h : e.cause.Plain) : Worded e.message.toList := by
  have hline : (toString e.mark.line).toList = Nat.toDigits 10 e.mark.line := Nat.toList_repr
  have hcolumn : (toString e.mark.column).toList = Nat.toDigits 10 e.mark.column :=
    Nat.toList_repr
  simp only [Json.Error.message, String.toList_append, hline, hcolumn, worded_append]
  refine ⟨⟨⟨⟨?_, ?_⟩, worded_toDigits _⟩, ?_⟩, worded_toDigits _⟩
  · have hmem : e.cause ∈ Json.Cause.syntaxFaults := by
      generalize e.cause = cause at h ⊢
      cases cause with
      | mismatch m => cases h
      | _ => simp [Json.Cause.syntaxFaults]
    exact worded_of_mem (List.mem_append_right _ (List.mem_map_of_mem hmem))
  · exact worded_of_mem (by simp [Event.wording])
  · exact worded_of_mem (by simp [Event.wording])

/-! ## Calls -/

theorem Unworded.ne (hc : Unworded c) {cs : List Char} (hw : Worded cs) : ∀ a ∈ cs, a ≠ c := by
  rintro a ha rfl
  exact hc.not_mem hw ha

theorem Unworded.ne_of_mem (hc : Unworded c) {t : String} (ht : t ∈ Event.wording) :
    ∀ a ∈ t.toList, a ≠ c := hc.ne (worded_of_mem ht)

theorem Unworded.marks (hc : Unworded c) : ∀ a ∈ Url.marks, a ≠ c := by
  refine hc.ne ?_
  have hsub : Url.marks ⊆ "%:/.?#".toList ++ "0123456789abcdefABCDEF".toList := by decide
  exact (worded_append.2 ⟨worded_of_mem (by simp [Event.wording]), worded_digits⟩).subset hsub

/-- The URL of a URL without a character has no such character. -/
theorem not_mem_text {u : Url} (hc : Unworded c) :
    c ∉ u.text.toList ↔ u.Within (· ≠ c) := by
  rw [Url.text, String.toList_ofList, ← Url.within_iff hc.marks]
  exact ⟨fun h a ha he => h (he ▸ ha), fun h hm => h c hm rfl⟩

namespace Order

variable {o : Order} {e : Endpoints} {b : Backend} {received : List Request}

/-- Where an order goes has only characters of the base and of its payment id. -/
theorem url_within (hc : Unworded c) (he : c ∉ e.base.text.toList)
    (ho : c ∉ o.record.paymentId.toList) : (o.url e).Within (· ≠ c) := by
  have hbase := (not_mem_text hc).1 he
  have hconfirmation : ∀ a ∈ e.confirmation.text.toList, a ≠ c := by
    refine hc.ne_of_mem ?_
    cases e.confirmation <;> simp [ConfirmationPath.text, Event.wording]
  cases o with
  | tanConfirmation r => exact Endpoints.within_tanConfirmation hc.marks hbase hconfirmation
  | consent r d =>
    refine Endpoints.within_consent hc.marks hbase hconfirmation ?_ d ?_
    · exact hc.ne_of_mem (by simp [Event.wording])
    · refine hc.ne_of_mem ?_
      cases d <;> simp [Decision.word, Event.wording]
  | singlePayments r =>
    refine Endpoints.within_singlePayment hc.marks hbase ?_ ?_
    · exact hc.ne_of_mem (by simp [Event.wording])
    · exact fun a ha heq => ho (heq ▸ ha)

/-- Its request goes there, without a user. -/
theorem request_within {P : Char → Prop} (h : (o.url e).Within P) {q : Request}
    (hq : o.request e = .ok q) : q.url.Within P := by
  obtain ⟨url, authorization, rfl | rfl, hr | hr⟩ := o.request_cases e
  · rw [hr] at hq
    cases hq
    exact h
  · rw [hr] at hq
    cases hq
  · rw [hr] at hq
    cases hq
    exact h.withoutUser
  · rw [hr] at hq
    cases hq

/-- No answer to the call means that the log names the URL that the call goes to. -/
theorem exchange_sending {url : Url} (h : (o.exchange b received e).final = .error (.sending url)) :
    ∃ q, o.request e = .ok q ∧ q.url = url := by
  unfold exchange at h
  cases hq : o.request e with
  | error fault =>
    rw [hq] at h
    obtain ⟨url', authorization, -, hr | hr⟩ := o.request_cases e
    · rw [hr] at hq
      cases hq
    · rw [hr] at hq
      cases hq
      cases h
  | ok q =>
    rw [hq] at h
    refine ⟨q, rfl, ?_⟩
    exact (Http.follow_exchanges b q.url Http.maxRedirects received q).sending h

/-- What a confirmation fails with repeats nothing of the answer. -/
theorem confirmation_plain {call call' : Call} {a : Answer} {text : String} {err : Json.Error}
    (h : confirmation call a text = .error (.decode call' err)) : err.cause.Plain := by
  unfold confirmation at h
  split at h
  · cases h
  split at h
  · split at h
    next => cases h
    next hread =>
      cases h
      exact Json.readValue_plain hread
  · cases h

/-- An answer is not what it should be only where a payment is wanted, or by its syntax. -/
theorem interpret_decode {call call' : Call} {a : Answer} {err : Json.Error}
    (h : interpret call a = .error (.decode call' err)) :
    call' = .singlePayments ∨ err.cause.Plain := by
  unfold interpret at h
  split at h
  · cases h
  split at h
  · split at h
    · cases h
    split at h
    · unfold payment at h
      split at h
      · cases h
      split at h <;> cases h
      exact Or.inl rfl
    · cases h
  · split at h
    · exact Or.inr (confirmation_plain h)
    · cases h

/-- Of an answer that came, only its body can fail to arrive. -/
theorem interpret_transport {call : Call} {a : Answer} {fault : Http.TransportFault}
    (h : interpret call a = .error (.transport fault)) : fault = .reading := by
  unfold interpret confirmation payment at h
  repeat' split at h
  all_goals
    cases h
    try rfl

/-- Once an exchange is over, the log repeats its echoes. -/
theorem final_repeats (hc : Unworded c) (he : c ∉ e.base.text.toList)
    (ho : c ∉ o.record.paymentId.toList) :
    let final := (o.exchange b received e).final
    Repeats c (answerLog final ++ resultLog o.call (resultOf o.call final))
      (echoes o.call final) := by
  intro final
  cases hf : final with
  | error fault =>
    cases fault with
    | sending url =>
      obtain ⟨q, hq, rfl⟩ := exchange_sending hf
      refine repeats_nil ?_
      intro ev hev
      rw [List.mem_singleton.1 hev]
      refine not_mem_failed hc _ ?_
      rw [(holds_sending _).mem_iff hc, not_mem_text hc]
      exact request_within (url_within hc he ho) hq
    | building url => exact repeats_failed _ (holds_building url)
    | redirecting url => exact repeats_failed _ (holds_redirecting url)
    | reading =>
      refine repeats_nil ?_
      intro ev hev
      rw [List.mem_singleton.1 hev]
      exact not_mem_failed hc _ (hc.not_mem worded_reading)
  | ok p =>
    obtain ⟨url, a⟩ := p
    refine (repeats_singleton (Event.holds_responded url.text a.status)).append ?_
    show Repeats c (resultLog o.call (interpret o.call a)) _
    cases hi : interpret o.call a with
    | ok result => exact repeats_nil fun _ hev => nomatch hev
    | error err =>
      cases err with
      | transport fault =>
        refine repeats_nil fun ev hev => ?_
        rw [List.mem_singleton.1 hev, interpret_transport hi]
        exact not_mem_failed hc _ (hc.not_mem worded_reading)
      | status code body => exact repeats_failed _ (holds_status code body)
      | decode call err =>
        cases call with
        | singlePayments => exact repeats_failed _ (holds_decode _ err)
        | tanConfirmation | consent =>
          -- Any JSON will do for a confirmation, so only its syntax can be at fault.
          have hplain := (interpret_decode hi).resolve_left (by decide)
          refine repeats_nil fun ev hev => ?_
          rw [List.mem_singleton.1 hev]
          refine not_mem_failed hc _ ?_
          rw [(holds_decode _ err).mem_iff hc]
          exact hc.not_mem (worded_of_plain hplain)

/-- **The log of a call** repeats what the answering party brought into it, and has no other text
with a character that neither the wording nor the call's URL has. -/
theorem perform_repeats (hc : Unworded c) (he : c ∉ e.base.text.toList)
    (ho : c ∉ o.record.paymentId.toList) :
    Repeats c (o.perform b received e).log (echoes o.call (o.exchange b received e).final) := by
  have hsending : Repeats c [.sending o.call] [] := by
    refine repeats_nil fun ev hev => ?_
    rw [List.mem_singleton.1 hev]
    exact hc.not_mem (Event.worded_sending o.call)
  exact hsending.append (final_repeats hc he ho)

end Order

end Teller
