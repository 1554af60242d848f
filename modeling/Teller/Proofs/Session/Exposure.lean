import Teller.Proofs.Endpoints
import Teller.Proofs.Log.Echo
import Teller.Proofs.Session.Records

/-!
# When a TAN gets into the log

No step logs a TAN of its own accord. But answers are logged in part, and whoever answers knows the
TANs that it was sent. So a TAN is in the log exactly if an answer brings it there.

* `World.logged`, `World.echoes`: what a run logs, and what answers bring into that.
* `Private`: a character that no input but a TAN has; `Exposed`: a log that has it exactly where
  answers bring it in.
* `step_repeats`, `run_repeats`: a log tells nothing but wording, what the run was given, and what
  answers bring in.
* `exposed_of_run`: the log of every run.
-/

namespace Teller

open Http (Request Reply Backend)

namespace World

variable {w : World} {b : Backend} {s : Step} {c : Char}

/-- What a run logs. -/
def logged (w : World) (es : List (Backend × Step)) : List Event :=
  (w.run es).2.flatMap Report.log

/-- What answers bring into the log of a step. -/
def echoed (w : World) (b : Backend) (s : Step) : List String :=
  match w.order? s with
  | some o => Order.echoes o.call (o.exchange b w.received w.endpoints).final
  | none => []

/-- What answers bring into the log of a run. -/
def echoes (w : World) : List (Backend × Step) → List String
  | [] => []
  | (b, s) :: es => w.echoed b s ++ (w.step b s).1.echoes es

/-- **A character that is private to TANs**: neither the wording nor the base has it, and no id of a
payment. -/
structure Private (c : Char) (e : Endpoints) (es : List (Backend × Step)) : Prop where
  wording : Unworded c
  base : c ∉ e.base.text.toList
  payments : ∀ p ∈ es, ∀ r ∈ p.2.record?, c ∉ r.paymentId.toList

/-- **A log has a private character exactly where answers bring it in.** -/
structure Exposed (c : Char) (log : List Event) (echoes : List String) : Prop where
  character : (∃ ev ∈ log, c ∈ ev.line.toList) ↔ ∃ x ∈ echoes, c ∈ x.toList
  /-- Likewise a whole text that has the character, unless it has a mark that stands around what is
  repeated. -/
  text : ∀ t : String, c ∈ t.toList → (∀ d ∈ "= ()".toList, d ∉ t.toList) →
    ((∃ ev ∈ log, t.toList <:+: ev.line.toList) ↔ ∃ x ∈ echoes, t.toList <:+: x.toList)
  /-- Any text that answers bring in is logged. -/
  echo : ∀ t : String, (∃ x ∈ echoes, t.toList <:+: x.toList) →
    ∃ ev ∈ log, t.toList <:+: ev.line.toList

/-- A log that repeats some texts has what they have. -/
theorem exposed_of_repeats {log : List Event} {echoes : List String} (hc : Unworded c)
    (h : Repeats c log echoes) : Exposed c log echoes := by
  have hecho (t : String) (ht : ∃ x ∈ echoes, t.toList <:+: x.toList) :
      ∃ ev ∈ log, t.toList <:+: ev.line.toList := by
    obtain ⟨x, hx, hi⟩ := ht
    obtain ⟨ev, hev, hh⟩ := h.all x hx
    exact ⟨ev, hev, hh.infix hi⟩
  refine ⟨⟨?_, ?_⟩, fun t ht hd => ⟨?_, hecho t⟩, hecho⟩
  · rintro ⟨ev, hev, hm⟩
    obtain ⟨x, hx, hh⟩ := (h.only ev hev).resolve_left (not_not.2 hm)
    exact ⟨x, hx, (hh.mem_iff hc).1 hm⟩
  · rintro ⟨x, hx, hm⟩
    obtain ⟨ev, hev, hh⟩ := h.all x hx
    exact ⟨ev, hev, (hh.mem_iff hc).2 hm⟩
  · rintro ⟨ev, hev, hi⟩
    -- The line has the text's private character, so it repeats an echo.
    obtain ⟨x, hx, hh⟩ := (h.only ev hev).resolve_left (not_not.2 (hi.subset ht))
    exact ⟨x, hx, (hh.infix_iff hc ht hd).1 hi⟩

/-- **One step** logs wording, what it was given, and what an answer brings in. -/
theorem step_repeats (b : Backend) (hc : Unworded c) (he : c ∉ w.endpoints.base.text.toList)
    (hw : AllRecords (c ∉ ·.paymentId.toList) w) (hs : ∀ r ∈ s.record?, c ∉ r.paymentId.toList) :
    Repeats c (w.step b s).2.log (w.echoed b s) := by
  unfold echoed
  cases ho : w.order? s with
  | none =>
    refine repeats_nil fun ev hev => ?_
    exact hc.not_mem (Event.worded_line ((step_of_no_order b ho).2.2.2.2 ev hev))
  | some o =>
    rw [(step_performed ho).1]
    exact Order.perform_repeats hc he (hw.order (by simp) hs ho)

/-- So does a run. -/
theorem run_repeats (hc : Unworded c) (es : List (Backend × Step))
    (he : c ∉ w.endpoints.base.text.toList) (hw : AllRecords (c ∉ ·.paymentId.toList) w)
    (hes : ∀ p ∈ es, ∀ r ∈ p.2.record?, c ∉ r.paymentId.toList) :
    Repeats c (w.logged es) (w.echoes es) := by
  induction es generalizing w with
  | nil => exact repeats_nil fun _ hev => nomatch hev
  | cons p es ih =>
    obtain ⟨b, s⟩ := p
    rw [List.forall_mem_cons] at hes
    have hstep := step_repeats b hc he hw hes.1
    have hrecords := allRecords_step (b := b) (by simp) hw hes.1
    have hrun := ih (step_endpoints w b s ▸ he) hrecords hes.2
    exact hstep.append hrun

/-- **TANs in the log.** Whatever the backends answer, the log of a run, from the making of its
client on, has a character that is private to TANs exactly if an answer brings it in: in a URL that
it sends the client to, in the body of a failure, or in what is wrong with a payment. -/
theorem exposed_of_run (e : Endpoints) (max : Nat) (es : List (Backend × Step))
    (hc : Private c e es) :
    Exposed c (e.ready :: (start e max).logged es) ((start e max).echoes es) := by
  refine exposed_of_repeats hc.wording ?_
  have hready : Repeats c [e.ready] [] := by
    refine repeats_nil fun ev hev => ?_
    rw [List.mem_singleton.1 hev, Endpoints.ready, Event.toList_ready]
    simp only [List.mem_append, not_or]
    refine ⟨⟨?_, hc.base⟩, ?_, ?_⟩
    · exact hc.wording _ (by simp [Event.wording])
    · exact hc.wording _ (by simp [Event.wording])
    · refine hc.wording _ ?_
      cases e.confirmation <;> simp [ConfirmationPath.text, Event.wording]
  exact hready.append (run_repeats hc.wording es hc.base (allRecords_start e max) hc.payments)

/-- A backend that refuses what it is sent, and repeats it. -/
def repeating : Backend := fun requests => .answer
  { status := 400, body := Text.Utf8.encode ((requests.head?.map Request.bodyText).getD "").toList }

/-- A TAN that is confirmed at such a backend. -/
def refused : List (Backend × Step) := [(repeating, .direct { tan := some "X71" } .confirmTan)]

theorem refused_private : Private 'X' .small refused :=
  ⟨by decide +kernel, by decide +kernel, by decide⟩

theorem exposed_after_refusal :
    Private 'X' .small refused ∧
      Exposed 'X' (Endpoints.ready .small :: (start .small 1).logged refused)
        ((start .small 1).echoes refused) :=
  ⟨refused_private, exposed_of_run .small 1 refused refused_private⟩

/-- Its TAN is in the log. -/
theorem refused_tan_logged :
    Private 'X' .small refused ∧
      ∃ ev ∈ (start .small 1).logged refused, "X71".toList <:+: ev.line.toList :=
  ⟨refused_private, by decide +kernel⟩

end World

end Teller
