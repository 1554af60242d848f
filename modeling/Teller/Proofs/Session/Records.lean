import Teller.Proofs.Client
import Teller.Proofs.Session.Run

/-!
# The records that can be sent

What is sent is a record that some step brought in, or the empty one. A property that those have is
kept by every step.

* `AllRecords`: a property of every record that can be sent, now or with a pending call.
* `allRecords_step`: every step keeps it; `AllRecords.order`: so the record that a step sends has
  it.
* `step_endpoints`: no step changes where requests go.
-/

namespace Teller

open Http (Backend)

/-- The record that a step brings in. -/
def Step.record? : Step → Option Record
  | .create _ r | .detached r | .save _ r | .direct r _ => some r
  | _ => none

namespace World

/-- All records that can be sent have a property. -/
structure AllRecords (R : Record → Prop) (w : World) : Prop where
  cells : ∀ r ∈ w.cells, R r
  pending : ∀ o, some (.ready o) ∈ w.pending → R o.record

variable {R : Record → Prop} {w : World} {b : Backend} {s : Step}

theorem allRecords_start (e : Endpoints) (max : Nat) : AllRecords R (start e max) :=
  ⟨fun _ hr => (nomatch hr), fun _ ho => (nomatch ho)⟩

theorem AllRecords.recordAt (hempty : R {}) (hw : AllRecords R w) (cell : Cell) :
    R (w.recordAt cell) := by
  unfold World.recordAt
  rw [List.getD_eq_getElem?_getD]
  cases h : w.cells[cell]? with
  | none => exact hempty
  | some r => exact hw.cells r (List.mem_of_getElem? h)

theorem record_of_demand {r : Record} {d : Demand} {o : Order} (h : d.order? r = some o) :
    o.record = r := by
  cases d with
  | decideText text =>
    obtain ⟨decision, -, rfl⟩ := Option.map_eq_some_iff.1 h
    rfl
  | _ => cases h; rfl

/-- What a step sends is one of the records that were there, or the one that it brings in. -/
theorem AllRecords.order (hempty : R {}) (hw : AllRecords R w) (hs : ∀ r ∈ s.record?, R r)
    {o : Order} (h : w.order? s = some o) : R o.record := by
  cases s with
  | call r d =>
    obtain ⟨cell, -, hd⟩ := Option.bind_eq_some_iff.1 h
    rw [record_of_demand hd]
    exact hw.recordAt hempty cell
  | direct record d =>
    rw [record_of_demand h]
    exact hs record rfl
  | await k =>
    obtain ⟨p, hp, ho⟩ := Option.bind_eq_some_iff.1 h
    cases p with
    | ready order =>
      have ho : order = o := Option.some.inj ho
      subst ho
      refine hw.pending order ?_
      rw [List.getD_eq_getElem?_getD] at hp
      cases hk : w.pending[k]? with
      | none =>
        rw [hk] at hp
        cases hp
      | some q =>
        rw [hk] at hp
        cases hp
        exact List.mem_of_getElem? hk
    | unread cell text =>
      obtain ⟨decision, -, rfl⟩ := Option.map_eq_some_iff.1 ho
      exact hw.recordAt hempty cell
  | _ => cases h

theorem step_endpoints (w : World) (b : Backend) (s : Step) :
    (w.step b s).1.endpoints = w.endpoints := by
  by_cases hs : s.isQuiet
  · exact (step_sameStore w b hs).endpoints
  cases s with
  | create id record =>
    simp only [step]
    cases w.manager.open? id w.cells.length <;> rfl
  | detached record => rfl
  | remove id =>
    simp only [step]
    cases w.manager.close? id <;> rfl
  | save r record =>
    simp only [step, withCell]
    cases w.resolve r <;> rfl
  | load r =>
    simp only [step, withCell]
    cases w.resolve r <;> rfl
  | _ => exact absurd rfl hs

theorem AllRecords.of_eq {v : World} (hw : AllRecords R w) (hc : v.cells = w.cells)
    (hp : v.pending = w.pending) : AllRecords R v :=
  ⟨hc ▸ hw.cells, hp ▸ hw.pending⟩

theorem AllRecords.allocate (hw : AllRecords R w) {record : Record} (hr : R record) :
    AllRecords R (w.allocate record) := by
  refine ⟨?_, hw.pending⟩
  intro r hmem
  rcases List.mem_append.1 hmem with hmem | hmem
  · exact hw.cells r hmem
  · rw [List.mem_singleton.1 hmem]
    exact hr

/-- A call that is not awaited keeps its record. -/
theorem AllRecords.begin (hempty : R {}) (hw : AllRecords R w) (cell : Cell) (d : Demand) :
    AllRecords R { w with pending := w.pending ++ [some (w.pendingOf cell d)] } := by
  refine ⟨hw.cells, ?_⟩
  intro o ho
  rcases List.mem_append.1 ho with ho | ho
  · exact hw.pending o ho
  · have hready : Pending.ready o = w.pendingOf cell d := Option.some.inj (List.mem_singleton.1 ho)
    have hrecord := hw.recordAt hempty cell
    cases d <;> cases hready <;> exact hrecord

theorem AllRecords.spend (hw : AllRecords R w) (k : Nat) :
    AllRecords R { w with pending := w.pending.set k none } := by
  refine ⟨hw.cells, ?_⟩
  intro o ho
  rcases List.mem_or_eq_of_mem_set ho with ho | ho
  · exact hw.pending o ho
  · cases ho

theorem performDirect_keeps (w : World) (b : Backend) (record : Record) (d : Demand) :
    (w.performDirect b record d).1.cells = w.cells ∧
      (w.performDirect b record d).1.pending = w.pending := by
  cases h : d.order? record with
  | none =>
    obtain ⟨text, ht⟩ := performDirect_of_none w b h
    rw [ht]
    exact ⟨rfl, rfl⟩
  | some o =>
    rw [performDirect_of_order h]
    exact ⟨rfl, rfl⟩

theorem await_keeps (w : World) (b : Backend) (p : Pending) :
    (w.await b p).1.cells = w.cells ∧ (w.await b p).1.pending = w.pending := by
  cases h : p.order? w with
  | none =>
    obtain ⟨text, ht⟩ := await_of_none b h
    rw [ht]
    exact ⟨rfl, rfl⟩
  | some o =>
    rw [await_of_order h]
    exact ⟨rfl, rfl⟩

/-- **Every step keeps a property of all records** that the record it brings in has. -/
theorem allRecords_step (hempty : R {}) (hw : AllRecords R w) (hs : ∀ r ∈ s.record?, R r) :
    AllRecords R (w.step b s).1 := by
  cases s with
  | create id record =>
    simp only [step]
    cases w.manager.open? id w.cells.length with
    | none => exact hw
    | some m => exact (hw.allocate (hs record rfl)).of_eq rfl rfl
  | detached record => exact hw.allocate (hs record rfl)
  | get r =>
    simp only [step, withCell]
    cases w.resolve r <;> exact hw
  | remove id =>
    simp only [step]
    cases w.manager.close? id with
    | none => exact hw
    | some p => exact hw.of_eq rfl rfl
  | save r record =>
    simp only [step, withCell]
    cases w.resolve r with
    | error e => exact hw
    | ok cell =>
      refine ⟨?_, hw.pending⟩
      intro r' hr'
      rcases List.mem_or_eq_of_mem_set hr' with hr' | rfl
      · exact hw.cells r' hr'
      · exact hs r' rfl
  | load r =>
    simp only [step, withCell]
    cases w.resolve r with
    | error e => exact hw
    | ok cell => exact hw.of_eq rfl rfl
  | recheck k =>
    simp only [step]
    cases w.snapshots[k]? <;> exact hw
  | call r d =>
    simp only [step, withCell]
    cases w.resolve r with
    | error e => exact hw
    | ok cell => exact hw.of_eq (await_keeps w b _).1 (await_keeps w b _).2
  | direct record d =>
    exact hw.of_eq (performDirect_keeps w b record d).1 (performDirect_keeps w b record d).2
  | begin r d =>
    simp only [step, withCell]
    cases w.resolve r with
    | error e => exact hw
    | ok cell => exact hw.begin hempty cell d
  | await k =>
    simp only [step, take?]
    cases w.pending.getD k none with
    | none => exact hw
    | some p => exact (hw.spend k).of_eq (await_keeps _ b p).1 (await_keeps _ b p).2
  | drop k =>
    simp only [step, take?]
    cases w.pending.getD k none with
    | none => exact hw
    | some p => exact hw.spend k

end World

end Teller
