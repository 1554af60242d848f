import Mathlib.Data.List.Induction
import Teller.Session.World

/-!
# Runs of a world

What a run leaves behind, and what one step can do. All results on sessions go through this module:
they follow a run by its last step (`run_induction`) and read what a step does off the lemmas here.

* `World.history`: the steps of a run with what came of them, the latest first.
* `World.order?`: the call that a step makes, if it makes one; `step_of_order` and
  `step_of_no_order` split every step by it, and `step_performed` and `step_not_called` say which
  steps have a call's result.
* `SameStore`: two worlds with the same sessions, records and snapshots. Calls, made or pending,
  keep all of it (`step_sameStore`).
-/

namespace Teller

open Http (Request Backend)

/-- Steps with what came of them, the latest first. -/
abbrev History := List (Step × Report)

/-- The order that a demand comes to with a record. A text may be no decision. -/
def Demand.order? (record : Record) : Demand → Option Order
  | .confirmTan => some (.tanConfirmation record)
  | .decide decision => some (.consent record decision)
  | .decideText text => (Decision.ofText? text).map (.consent record)
  | .showPayment => some (.singlePayments record)

/-- The order that a pending call comes to when it is awaited. -/
def Pending.order? (w : World) : Pending → Option Order
  | .ready order => some order
  | .unread cell text => (Decision.ofText? text).map (.consent (w.recordAt cell))

/-- The id whose digits are all the same. -/
def SessionId.repeated (d : Fin 16) : SessionId := ⟨List.replicate 32 d, List.length_replicate⟩

namespace World

variable {w : World} {b : Backend} {s : Step}

/-! ## Runs by their last step -/

theorem run_append (w : World) (es fs : List (Backend × Step)) :
    w.run (es ++ fs) =
      (((w.run es).1.run fs).1, (w.run es).2 ++ ((w.run es).1.run fs).2) := by
  induction es generalizing w with
  | nil => rfl
  | cons e es ih => simp only [List.cons_append, run, ih]

theorem run_concat (w : World) (es : List (Backend × Step)) (b : Backend) (s : Step) :
    w.run (es ++ [(b, s)]) =
      (((w.run es).1.step b s).1, (w.run es).2 ++ [((w.run es).1.step b s).2]) := by
  rw [run_append]
  rfl

theorem length_run (w : World) (es : List (Backend × Step)) : (w.run es).2.length = es.length := by
  induction es generalizing w with
  | nil => rfl
  | cons e es ih => simp only [run, List.length_cons, ih]

/-- The steps of a run with what came of them, the latest first. -/
def history (w : World) (es : List (Backend × Step)) : History :=
  ((es.map Prod.snd).zip (w.run es).2).reverse

theorem history_append (w : World) (es fs : List (Backend × Step)) :
    w.history (es ++ fs) = (w.run es).1.history fs ++ w.history es := by
  -- A run gives one report a step, so the two lists can be cut at one place.
  have hlen : (es.map Prod.snd).length = (w.run es).2.length := by
    rw [length_run, List.length_map]
  simp only [history, run_append, List.map_append]
  rw [List.zip_append hlen, List.reverse_append]

theorem history_concat (w : World) (es : List (Backend × Step)) (b : Backend) (s : Step) :
    w.history (es ++ [(b, s)]) =
      (s, ((w.run es).1.step b s).2) :: w.history es := by
  rw [history_append]
  rfl

/-- **Runs by their last step.** What holds at the start and is kept by every step holds of the
history and the world of every run. -/
theorem run_induction {motive : History → World → Prop} (start : motive [] w)
    (step : ∀ h v b s, motive h v →
      motive ((s, (v.step b s).2) :: h) (v.step b s).1)
    (es : List (Backend × Step)) : motive (w.history es) (w.run es).1 := by
  induction es using List.reverseRecOn with
  | nil => exact start
  | append_singleton es e ih =>
    obtain ⟨b, s⟩ := e
    rw [history_concat, run_concat]
    exact step _ _ _ _ ih

/-! ## The call of a step -/

/-- The order of the call that a step makes. -/
def order? (w : World) : Step → Option Order
  | .call s d => (w.resolve s).toOption.bind fun cell => d.order? (w.recordAt cell)
  | .direct record d => d.order? record
  | .await k => (w.pending.getD k none).bind (·.order? w)
  | _ => none

/-- The world when the call of a step begins: an awaited call is pending no more. -/
def spend (w : World) : Step → World
  | .await k => { w with pending := w.pending.set k none }
  | _ => w

theorem performText_of_none {text : String} (h : Decision.ofText? text = none) (record : Record) :
    w.performText b text record = (w, ⟨.undecided text, [], []⟩) := by
  simp only [performText, h]

theorem performText_of_some {text : String} {d : Decision} (h : Decision.ofText? text = some d)
    (record : Record) :
    w.performText b text record = w.perform b (.consent record d) := by
  simp only [performText, h]

theorem performDirect_of_order {record : Record} {d : Demand} {o : Order}
    (h : d.order? record = some o) : w.performDirect b record d = w.perform b o := by
  cases d with
  | decideText text =>
    obtain ⟨decision, hd, rfl⟩ := Option.map_eq_some_iff.1 h
    exact performText_of_some hd record
  | _ => cases h; rfl

theorem performDirect_of_none (w : World) (b : Backend) {record : Record} {d : Demand}
    (h : d.order? record = none) :
    ∃ text, w.performDirect b record d = (w, ⟨.undecided text, [], []⟩) := by
  cases d with
  | decideText text => exact ⟨text, performText_of_none (Option.map_eq_none_iff.1 h) record⟩
  | _ => cases h

theorem await_of_order {p : Pending} {o : Order} (h : p.order? w = some o) :
    w.await b p = w.perform b o := by
  cases p with
  | ready order => cases h; rfl
  | unread cell text =>
    obtain ⟨decision, hd, rfl⟩ := Option.map_eq_some_iff.1 h
    exact performText_of_some hd _

theorem await_of_none (b : Backend) {p : Pending} (h : p.order? w = none) :
    ∃ text, w.await b p = (w, ⟨.undecided text, [], []⟩) := by
  cases p with
  | ready order => cases h
  | unread cell text => exact ⟨text, performText_of_none (Option.map_eq_none_iff.1 h) _⟩

/-- A call that is awaited at once is a direct call with the record of its session. -/
theorem await_pendingOf (w : World) (b : Backend) (cell : Cell) (d : Demand) :
    w.await b (w.pendingOf cell d) = w.performDirect b (w.recordAt cell) d := by
  cases d <;> rfl

theorem withCell_of_ok {r : SessionRef} {cell : Cell} (h : w.resolve r = .ok cell)
    (act : Cell → World × Report) : w.withCell r act = act cell := by
  simp only [withCell, h]

theorem withCell_of_error {r : SessionRef} {e : SessionError} (h : w.resolve r = .error e)
    (act : Cell → World × Report) : w.withCell r act = (w, ⟨.failed e, [], []⟩) := by
  simp only [withCell, h]

/-- A session's call is a direct call with the record of its session. -/
theorem step_call {r : SessionRef} {cell : Cell} (h : w.resolve r = .ok cell) (d : Demand) :
    w.step b (.call r d) = w.step b (.direct (w.recordAt cell) d) := by
  simp only [step]
  rw [withCell_of_ok h, await_pendingOf]

/-- **A step that makes a call** performs its order, and nothing else. -/
theorem step_of_order {o : Order} (h : w.order? s = some o) :
    w.step b s = (w.spend s).perform b o := by
  cases s with
  | call r d =>
    cases hr : w.resolve r with
    | error e => simp [order?, hr, Except.toOption] at h
    | ok cell =>
      rw [step_call hr]
      exact performDirect_of_order (by simpa [order?, hr, Except.toOption] using h)
  | direct record d => exact performDirect_of_order h
  | await k =>
    obtain ⟨p, hp, ho⟩ := Option.bind_eq_some_iff.1 h
    -- An unread text is read in the world without the pending call, which has the same records.
    simp only [step, take?, hp, Option.map_some]
    refine await_of_order ?_
    cases p <;> exact ho
  | _ => cases h

/-- What a step that makes a call reports, and what it counts, are those of its order. -/
theorem step_performed {o : Order} (h : w.order? s = some o) :
    let p := o.perform b w.received w.endpoints
    (w.step b s).2 = ⟨.called p.result, p.log, p.requests⟩ ∧
      (w.step b s).1.metrics = w.metrics.record o.call (outcomeOf p.result) := by
  rw [step_of_order h]
  -- Taking a call from the pending ones changes nothing that the call reads.
  cases s <;> exact ⟨rfl, rfl⟩

end World

/-- Steps that keep the register, all records and all snapshots: they look at something, or make,
begin, await or drop a call. -/
def Step.isQuiet : Step → Bool
  | .create _ _ | .detached _ | .remove _ | .save _ _ | .load _ => false
  | _ => true

namespace World

variable {w : World} {b : Backend} {s : Step}

/-- A quiet step that makes no call changes the list of pending calls at most. -/
theorem step_quiet (b : Backend) (hs : s.isQuiet) (h : w.order? s = none) :
    ∃ ps a, w.step b s = ({ w with pending := ps }, ⟨a, [], []⟩) ∧
      ∀ result, a ≠ .called result := by
  cases s with
  | get r =>
    cases hr : w.resolve r with
    | error e => exact ⟨_, _, withCell_of_error hr _, fun _ => nofun⟩
    | ok cell => exact ⟨_, _, withCell_of_ok hr _, fun _ => nofun⟩
  | recheck k =>
    cases hk : w.snapshots[k]? with
    | none => exact ⟨w.pending, .noSnapshot, by simp only [step, hk], fun _ => nofun⟩
    | some record => exact ⟨w.pending, .record record, by simp only [step, hk], fun _ => nofun⟩
  | call r d =>
    cases hr : w.resolve r with
    | error e => exact ⟨_, _, withCell_of_error hr _, fun _ => nofun⟩
    | ok cell =>
      have hd : d.order? (w.recordAt cell) = none := by
        simpa [order?, hr, Except.toOption] using h
      obtain ⟨text, ht⟩ := performDirect_of_none w b hd
      exact ⟨_, _, (step_call hr d).trans ht, fun _ => nofun⟩
  | direct record d =>
    obtain ⟨text, ht⟩ := performDirect_of_none w b h
    exact ⟨_, _, ht, fun _ => nofun⟩
  | begin r d =>
    cases hr : w.resolve r with
    | error e => exact ⟨_, _, withCell_of_error hr _, fun _ => nofun⟩
    | ok cell => exact ⟨_, _, withCell_of_ok hr _, fun _ => nofun⟩
  | await k =>
    cases hp : w.pending.getD k none with
    | none =>
      refine ⟨w.pending, .noPending, ?_, fun _ => nofun⟩
      simp only [step, take?, hp, Option.map_none]
    | some p =>
      have ho : p.order? { w with pending := w.pending.set k none } = none := by
        simp only [order?, hp, Option.bind_some] at h
        cases p <;> exact h
      obtain ⟨text, ht⟩ := await_of_none b ho
      refine ⟨w.pending.set k none, .undecided text, ?_, fun _ => nofun⟩
      simp only [step, take?, hp, Option.map_some, ht]
  | drop k =>
    cases hp : w.pending.getD k none with
    | none =>
      refine ⟨w.pending, .noPending, ?_, fun _ => nofun⟩
      simp only [step, take?, hp, Option.map_none]
    | some p =>
      refine ⟨w.pending.set k none, .dropped, ?_, fun _ => nofun⟩
      simp only [step, take?, hp, Option.map_some]
  | _ => cases hs

/-- **A step that makes no call** sends nothing, counts no call and logs nothing but an event of the
register. -/
theorem step_of_no_order (b : Backend) (h : w.order? s = none) :
    (w.step b s).2.requests = [] ∧ (w.step b s).1.received = w.received ∧
      (w.step b s).1.metrics.requests = w.metrics.requests ∧
      (w.step b s).1.metrics.durations = w.metrics.durations ∧
      ∀ ev ∈ (w.step b s).2.log, ev.source = .sessions := by
  by_cases hs : s.isQuiet
  · obtain ⟨ps, a, ha, -⟩ := step_quiet b hs h
    simp [ha]
  cases s with
  | create id record =>
    simp only [step]
    cases w.manager.open? id w.cells.length <;>
      simp [withManager, allocate, Metrics.setActive, Event.source]
  | detached record => simp [step, allocate]
  | remove id =>
    simp only [step]
    cases w.manager.close? id <;> simp [withManager, Metrics.setActive, Event.source]
  | save r record =>
    simp only [step, withCell]
    cases w.resolve r <;> simp
  | load r =>
    simp only [step, withCell]
    cases w.resolve r <;> simp
  | _ => exact absurd rfl hs

/-- No call, no result. -/
theorem step_not_called (b : Backend) (h : w.order? s = none) (result) :
    (w.step b s).2.answer ≠ .called result := by
  by_cases hs : s.isQuiet
  · obtain ⟨ps, a, ha, hne⟩ := step_quiet b hs h
    rw [ha]
    exact hne result
  cases s with
  | create id record =>
    simp only [step]
    cases w.manager.open? id w.cells.length <;> exact nofun
  | detached record => exact nofun
  | remove id =>
    simp only [step]
    cases w.manager.close? id <;> exact nofun
  | save r record | load r =>
    simp only [step, withCell]
    cases w.resolve r <;> exact nofun
  | _ => exact absurd rfl hs

/-- Two worlds with the same register, records, snapshots and gauge. -/
structure SameStore (v w : World) : Prop where
  endpoints : v.endpoints = w.endpoints
  manager : v.manager = w.manager
  cells : v.cells = w.cells
  snapshots : v.snapshots = w.snapshots
  active : v.metrics.active = w.metrics.active

/-- **Calls keep every session, record and snapshot**, whatever the backend answers. -/
theorem step_sameStore (w : World) (b : Backend) (hs : s.isQuiet) : SameStore (w.step b s).1 w := by
  cases ho : w.order? s with
  | some o =>
    rw [step_of_order ho]
    have h : SameStore (w.spend s) w := by cases s <;> exact ⟨rfl, rfl, rfl, rfl, rfl⟩
    exact ⟨h.endpoints, h.manager, h.cells, h.snapshots, h.active⟩
  | none =>
    obtain ⟨ps, a, ha, -⟩ := step_quiet b hs ho
    rw [ha]
    exact ⟨rfl, rfl, rfl, rfl, rfl⟩

end World

end Teller
