import Teller.Proofs.Ending
import Teller.Proofs.Session.Run

/-!
# Accounts of calls

Every call is counted once, under the way in which it ended, and its duration is taken once. Its
log tells that it began, what the final answer was, and why it failed. Nothing else counts or logs
calls.

* `Outcome.fits`: the results that an outcome stands for, exactly one outcome for each.
* `World.calls`: the calls of a run with their results.
* `Booked`, `Unbooked`: what a step adds to the accounts that makes a call, and one that makes none;
  `booked_of_order`, `unbooked_of_no_order`.
* `Accounted`: the accounts after a run; `accounted_of_run`: counters and durations tell the number
  of calls.
-/

namespace Teller

open Http (Backend)

/-! ## Outcomes -/

namespace Outcome

/-- The results that an outcome stands for. -/
def fits : Outcome → Except CallError CallResult → Bool
  | .success, .ok _ => true
  | .status, .error (.status _ _) => true
  | .decode, .error (.decode _ _) => true
  | .transport, .error (.transport _) => true
  | _, _ => false

/-- The outcome that is counted is the one that fits. -/
theorem fits_iff {x : Outcome} {result : Except CallError CallResult} :
    x.fits result ↔ x = outcomeOf result := by
  cases result with
  | ok r => cases x <;> simp [fits, outcomeOf]
  | error e => cases e <;> cases x <;> simp [fits, outcomeOf, CallError.outcome]

end Outcome

/-- **Calls by outcome add up to all calls**, since each result fits one outcome. -/
theorem countP_fits (calls : List (Call × Except CallError CallResult)) (c : Call) :
    (calls.countP fun p => p.1 = c ∧ Outcome.success.fits p.2) +
        (calls.countP fun p => p.1 = c ∧ Outcome.status.fits p.2) +
        (calls.countP fun p => p.1 = c ∧ Outcome.decode.fits p.2) +
        (calls.countP fun p => p.1 = c ∧ Outcome.transport.fits p.2) =
      calls.countP fun p => p.1 = c := by
  induction calls with
  | nil => rfl
  | cons p calls ih =>
    obtain ⟨call, result⟩ := p
    simp only [List.countP_cons, ← ih]
    -- One call more is one more on both sides: its result is of one of four kinds.
    by_cases hc : call = c
    · cases result with
      | ok r => simp [hc, Outcome.fits]; omega
      | error e => cases e <;> simp [hc, Outcome.fits] <;> omega
    · simp [hc]

namespace World

variable {w : World} {b : Backend} {s : Step}

/-! ## Steps -/

/-- The call that a step makes, with its result. -/
def called? (w : World) (b : Backend) (s : Step) : Option (Call × Except CallError CallResult) :=
  match w.order? s, (w.step b s).2.answer with
  | some o, .called result => some (o.call, result)
  | _, _ => none

/-- The calls of a run with their results, the first one first. -/
def calls (w : World) : List (Backend × Step) → List (Call × Except CallError CallResult)
  | [] => []
  | (b, s) :: es => (w.called? b s).toList ++ (w.step b s).1.calls es

/-- **What a call adds to the accounts.** It led from one world to the next, and `Final` holds of
its final answer, if there was one, and of where that came from. -/
structure Booked (call : Call) (Final : Url → Http.Answer → Prop) (w v : World) (r : Report)
    (result : Except CallError CallResult) : Prop where
  /-- A call gives its result, or one of the errors of calls. -/
  answer : r.answer = .called result
  /-- It is counted once, under its name and the outcome that its result fits. -/
  requests : ∀ c x, v.metrics.requests c x =
    w.metrics.requests c x + if call = c ∧ x.fits result then 1 else 0
  /-- Its duration is taken once. -/
  durations : ∀ c, v.metrics.durations c = w.metrics.durations c + if call = c then 1 else 0
  /-- It logs that it begins, the status of its final answer, and why it failed, if so. -/
  log : ∃ answered failed, r.log = .sending call :: (answered ++ failed) ∧
    (∀ url a, Final url a → answered = [.responded url.text a.status]) ∧
    ((∀ url a, ¬ Final url a) → answered = []) ∧
    (∀ e, result = .error e → failed = [.failed call e.message]) ∧
    ((∃ x, result = .ok x) → failed = [])

/-- **A step that leaves the accounts alone.** -/
structure Unbooked (w v : World) (r : Report) : Prop where
  answer : ∀ result, r.answer ≠ .called result
  requests : v.metrics.requests = w.metrics.requests
  durations : v.metrics.durations = w.metrics.durations
  log : ∀ ev ∈ r.log, ev.source ≠ .client

/-- **Every step that makes a call** books it. -/
theorem booked_of_order {o : Order} (b : Backend) (h : w.order? s = some o) :
    Booked o.call (o.Answered b w.received w.endpoints) w (w.step b s).1 (w.step b s).2
      (o.perform b w.received w.endpoints).result := by
  obtain ⟨hreport, hmetrics⟩ := step_performed (b := b) h
  rw [hreport]
  refine ⟨rfl, ?_, ?_, ?_⟩
  · intro c x
    rw [hmetrics]
    simp only [Metrics.record, Outcome.fits_iff, eq_comm (a := o.call)]
    split <;> rfl
  · intro c
    rw [hmetrics]
    simp only [Metrics.record, eq_comm (a := o.call)]
    split <;> rfl
  -- What is logged of the answer and of the result stands behind the first event.
  · refine ⟨Order.answerLog (o.exchange b w.received w.endpoints).final,
      Order.resultLog o.call (o.perform b w.received w.endpoints).result, rfl, ?_, ?_, ?_, ?_⟩
    · intro url a ha
      rw [Order.answered_iff.1 ha]
      rfl
    · intro hnone
      cases hx : (o.exchange b w.received w.endpoints).final with
      | error fault => rfl
      | ok p => exact absurd (Order.answered_iff.2 hx) (hnone p.1 p.2)
    · intro e he
      rw [he]
      rfl
    · rintro ⟨x, hx⟩
      rw [hx]
      rfl

/-- **Every other step** books nothing. -/
theorem unbooked_of_no_order (b : Backend) (h : w.order? s = none) :
    Unbooked w (w.step b s).1 (w.step b s).2 := by
  obtain ⟨-, -, hrequests, hdurations, hlog⟩ := step_of_no_order b h
  refine ⟨step_not_called b h, hrequests, hdurations, ?_⟩
  intro ev hev
  rw [hlog ev hev]
  decide

/-! ## Runs -/

theorem called?_of_order {o : Order} (b : Backend) (h : w.order? s = some o) :
    w.called? b s = some (o.call, (o.perform b w.received w.endpoints).result) := by
  simp only [called?, h, (booked_of_order b h).answer]

theorem called?_of_no_order (b : Backend) (h : w.order? s = none) : w.called? b s = none := by
  simp only [called?, h]

section

-- Something that is counted: one for each booked call that has a property, and nothing else.
variable (count : Metrics → Nat) {P : Call × Except CallError CallResult → Bool}
  (hbooked : ∀ {call Final w v r result}, Booked call Final w v r result →
    count v.metrics = count w.metrics + if P (call, result) then 1 else 0)
  (hunbooked : ∀ {w v r}, Unbooked w v r → count v.metrics = count w.metrics)

include hbooked hunbooked

/-- A step counts the call that it makes. -/
theorem step_counts (w : World) (b : Backend) (s : Step) :
    count (w.step b s).1.metrics = count w.metrics + (w.called? b s).toList.countP P := by
  cases ho : w.order? s with
  | some o =>
    rw [hbooked (booked_of_order b ho), called?_of_order b ho, Option.toList_some,
      List.countP_singleton]
  | none =>
    rw [hunbooked (unbooked_of_no_order b ho), called?_of_no_order b ho]
    rfl

/-- **A run counts its calls.** -/
theorem run_counts (w : World) (es : List (Backend × Step)) :
    count (w.run es).1.metrics = count w.metrics + (w.calls es).countP P := by
  induction es generalizing w with
  | nil => rfl
  | cons e es ih =>
    simp only [run, calls, List.countP_append]
    rw [ih, step_counts count hbooked hunbooked, Nat.add_assoc]

end

/-- A run counts each of its calls under the outcome that its result fits. -/
theorem run_requests (w : World) (es : List (Backend × Step)) (c : Call) (x : Outcome) :
    (w.run es).1.metrics.requests c x =
      w.metrics.requests c x + (w.calls es).countP fun p => p.1 = c ∧ x.fits p.2 := by
  refine run_counts (fun m => m.requests c x) ?_ ?_ w es
  · intro call Final w v r result h
    simpa using h.requests c x
  · intro w v r h
    exact congrFun (congrFun h.requests c) x

/-- A run takes one duration for each of its calls. -/
theorem run_durations (w : World) (es : List (Backend × Step)) (c : Call) :
    (w.run es).1.metrics.durations c =
      w.metrics.durations c + (w.calls es).countP fun p => p.1 = c := by
  refine run_counts (fun m => m.durations c) ?_ ?_ w es
  · intro call Final w v r result h
    simpa using h.durations c
  · intro w v r h
    exact congrFun h.durations c

/-- **The accounts after a run** of some steps. -/
structure Accounted (w : World) (es : List (Backend × Step)) : Prop where
  /-- Each counter tells the number of calls of its name whose results fit its outcome. -/
  requests : ∀ c x, (w.run es).1.metrics.requests c x =
    (w.calls es).countP fun p => p.1 = c ∧ x.fits p.2
  /-- There are as many durations as calls. -/
  durations : ∀ c, (w.run es).1.metrics.durations c = (w.calls es).countP fun p => p.1 = c
  /-- The counters of all outcomes add up to the durations. -/
  total : ∀ c, let counted := (w.run es).1.metrics.requests c
    counted .success + counted .status + counted .decode + counted .transport =
      (w.run es).1.metrics.durations c
  /-- The next step books the call that it makes, if it makes one. -/
  books : ∀ b s o, (w.run es).1.order? s = some o → ∃ result,
    Booked o.call (o.Answered b (w.run es).1.received (w.run es).1.endpoints) (w.run es).1
      ((w.run es).1.step b s).1 ((w.run es).1.step b s).2 result
  /-- If it makes none, it leaves the accounts alone. -/
  idles : ∀ b s, (w.run es).1.order? s = none →
    Unbooked (w.run es).1 ((w.run es).1.step b s).1 ((w.run es).1.step b s).2

/-- **The accounts over whole runs.** Whatever the backends answer, every call that is made is
counted once and logged as it went, and counters, durations and calls add up. -/
theorem accounted_of_run (e : Endpoints) (max : Nat) (es : List (Backend × Step)) :
    Accounted (start e max) es := by
  have hrequests (c : Call) (x : Outcome) :=
    (run_requests (start e max) es c x).trans (Nat.zero_add _)
  have hdurations (c : Call) := (run_durations (start e max) es c).trans (Nat.zero_add _)
  refine ⟨hrequests, hdurations, ?_, ?_, ?_⟩
  · intro c counted
    simp only [counted, hrequests, hdurations]
    exact countP_fits _ c
  · intro b s o ho
    exact ⟨_, booked_of_order b ho⟩
  · intro b s ho
    exact unbooked_of_no_order b ho

end World

end Teller
