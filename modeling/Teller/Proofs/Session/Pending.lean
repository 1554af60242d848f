import Teller.Proofs.Session.Heap
import Teller.Proofs.Session.Records

/-!
# Calls that wait

A call can be begun now and awaited later, with anything in between. What waits under one number
concerns no step but those that take it: whatever else waits there, all others do the same.

* `World.put`: another call in the place of one that waits; `step_put`, `run_put`: steps that do not
  take it commute with that.
* `Deferred`: what beginning, dropping and awaiting a call do after a history; `deferred_of_run`: a
  call sends the record that its session held when it was begun, whatever was done since.
-/

namespace Teller

open Http (Backend)

/-- A step takes the call that waits under a number. -/
def Step.takes (k : Nat) : Step → Bool
  | .await j | .drop j => j = k
  | _ => false

/-- Everything that a call sends is fixed when it is begun. -/
def Demand.isFixed : Demand → Bool
  | .decideText _ => false
  | _ => true

namespace World

variable {w : World} {b : Backend} {s : Step} {k : Nat} {p : Option Pending}

/-! ## Other steps -/

/-- A world with another call, or none, in the place of one that waits. -/
def put (w : World) (k : Nat) (p : Option Pending) : World :=
  { w with pending := w.pending.set k p }

theorem put_put (w : World) (k : Nat) (p q : Option Pending) : (w.put k p).put k q = w.put k q := by
  simp only [put, List.set_set]

theorem perform_put (w : World) (b : Backend) (o : Order) :
    (w.put k p).perform b o = ((w.perform b o).1.put k p, (w.perform b o).2) := rfl

theorem performText_put (w : World) (b : Backend) (text : String) (record : Record) :
    (w.put k p).performText b text record =
      ((w.performText b text record).1.put k p, (w.performText b text record).2) := by
  unfold performText
  cases Decision.ofText? text <;> rfl

theorem performDirect_put (w : World) (b : Backend) (record : Record) (d : Demand) :
    (w.put k p).performDirect b record d =
      ((w.performDirect b record d).1.put k p, (w.performDirect b record d).2) := by
  cases d with
  | decideText text => exact performText_put w b text record
  | _ => rfl

theorem await_put (w : World) (b : Backend) (q : Pending) :
    (w.put k p).await b q = ((w.await b q).1.put k p, (w.await b q).2) := by
  cases q with
  | ready order => rfl
  | unread cell text => exact performText_put w b text _

theorem pendingOf_put (w : World) (cell : Cell) (d : Demand) :
    (w.put k p).pendingOf cell d = w.pendingOf cell d := by
  cases d <;> rfl

theorem withCell_put (w : World) (r : SessionRef) {act act' : Cell → World × Report}
    (h : ∀ cell, act' cell = ((act cell).1.put k p, (act cell).2)) :
    (w.put k p).withCell r act' = ((w.withCell r act).1.put k p, (w.withCell r act).2) := by
  have hr : (w.put k p).resolve r = w.resolve r := rfl
  unfold withCell
  rw [hr]
  cases w.resolve r with
  | error e => rfl
  | ok cell => exact h cell

/-- Taking another call finds the same. -/
theorem take?_put (w : World) {j : Nat} (hj : j ≠ k) :
    (w.put k p).take? j = (w.take? j).map fun q => (q.1, q.2.put k p) := by
  have hget : (w.put k p).pending.getD j none = w.pending.getD j none := by
    simp only [put, List.getD_eq_getElem?_getD, List.getElem?_set_ne hj.symm]
  unfold take?
  rw [hget]
  cases w.pending.getD j none with
  | none => rfl
  | some q => simp only [Option.map_some, put, List.set_comm _ _ hj]

/-- **A step that does not take a call** does the same whatever waits in its place. -/
theorem step_put (w : World) (b : Backend) (hs : s.takes k = false) (hk : k < w.pending.length) :
    (w.put k p).step b s = ((w.step b s).1.put k p, (w.step b s).2) := by
  -- Only steps on calls that wait look at the list, and they look at another place of it.
  cases s with
  | create id record =>
    have hmanager : (w.put k p).manager = w.manager := rfl
    have hcells : (w.put k p).cells = w.cells := rfl
    simp only [step, hmanager, hcells]
    cases w.manager.open? id w.cells.length <;> rfl
  | detached record => rfl
  | get r => exact withCell_put w r fun cell => rfl
  | remove id =>
    have hmanager : (w.put k p).manager = w.manager := rfl
    simp only [step, hmanager]
    cases w.manager.close? id <;> rfl
  | save r record => exact withCell_put w r fun cell => rfl
  | load r => exact withCell_put w r fun cell => rfl
  | recheck j =>
    have hsnapshots : (w.put k p).snapshots = w.snapshots := rfl
    simp only [step, hsnapshots]
    cases w.snapshots[j]? <;> rfl
  | call r d =>
    refine withCell_put w r fun cell => ?_
    rw [pendingOf_put]
    exact await_put w b _
  | direct record d => exact performDirect_put w b record d
  | begin r d =>
    refine withCell_put w r fun cell => ?_
    rw [pendingOf_put]
    -- The new call is noted behind the place, which is there already.
    simp only [put, List.length_set, List.set_append_left _ _ hk]
  | await j =>
    have hj : j ≠ k := of_decide_eq_false hs
    simp only [step, take?_put w hj]
    cases w.take? j with
    | none => rfl
    | some q => exact await_put q.2 b q.1
  | drop j =>
    have hj : j ≠ k := of_decide_eq_false hs
    simp only [step, take?_put w hj]
    cases w.take? j <;> rfl

/-- No number is given twice. -/
theorem length_pending_step (w : World) (b : Backend) (s : Step) :
    w.pending.length ≤ (w.step b s).1.pending.length := by
  -- A call that is begun adds a place; one that is taken leaves its place empty.
  cases s with
  | create id record =>
    simp only [step]
    cases w.manager.open? id w.cells.length <;> exact Nat.le_refl _
  | detached record => exact Nat.le_refl _
  | remove id =>
    simp only [step]
    cases w.manager.close? id <;> exact Nat.le_refl _
  | get r | save r _ | load r =>
    simp only [step, withCell]
    cases w.resolve r <;> exact Nat.le_refl _
  | recheck j =>
    simp only [step]
    cases w.snapshots[j]? <;> exact Nat.le_refl _
  | call r d =>
    simp only [step, withCell]
    cases w.resolve r with
    | error e => exact Nat.le_refl _
    | ok cell => exact Nat.le_of_eq (congrArg List.length (await_keeps w b _).2.symm)
  | direct record d =>
    exact Nat.le_of_eq (congrArg List.length (performDirect_keeps w b record d).2.symm)
  | begin r d =>
    simp only [step, withCell]
    cases w.resolve r with
    | error e => exact Nat.le_refl _
    | ok cell => simp
  | await j =>
    simp only [step, take?]
    cases w.pending.getD j none with
    | none => exact Nat.le_refl _
    | some q => simp [(await_keeps _ b q).2]
  | drop j =>
    simp only [step, take?]
    cases w.pending.getD j none with
    | none => exact Nat.le_refl _
    | some q => simp

theorem length_pending_run (w : World) (es : List (Backend × Step)) :
    w.pending.length ≤ (w.run es).1.pending.length := by
  induction es generalizing w with
  | nil => exact Nat.le_refl _
  | cons e es ih => exact Nat.le_trans (length_pending_step w e.1 e.2) (ih _)

/-- **Steps that do not take a call** do the same whatever waits in its place. -/
theorem run_put (w : World) (es : List (Backend × Step)) (hs : ∀ e ∈ es, e.2.takes k = false)
    (hk : k < w.pending.length) :
    (w.put k p).run es = ((w.run es).1.put k p, (w.run es).2) := by
  induction es generalizing w with
  | nil => rfl
  | cons e es ih =>
    rw [List.forall_mem_cons] at hs
    have hlt := Nat.lt_of_lt_of_le hk (length_pending_step w e.1 e.2)
    simp only [run, step_put w e.1 hs.1 hk, ih _ hs.2 hlt]

/-! ## The call itself -/

/-- A world in which the next number is given away, to no call. -/
def reserve (w : World) : World := { w with pending := w.pending ++ [none] }

/-- Beginning a call notes it under the next number. -/
theorem step_begin {r : SessionRef} {cell : Cell} (h : w.resolve r = .ok cell) (b : Backend)
    (d : Demand) :
    w.step b (.begin r d) =
      (w.reserve.put w.pending.length (some (w.pendingOf cell d)),
        ⟨.pending w.pending.length, [], []⟩) := by
  simp only [step, put, reserve, List.set_append_right _ _ (Nat.le_refl _), Nat.sub_self,
    List.set_cons_zero]
  exact withCell_of_ok h _

/-- A call that was begun waits through all steps that do not take it. -/
theorem run_begin {r : SessionRef} {cell : Cell} (h : w.resolve r = .ok cell) (b : Backend)
    (d : Demand) (es : List (Backend × Step))
    (hs : ∀ e ∈ es, e.2.takes w.pending.length = false) :
    w.run ((b, .begin r d) :: es) =
      ((w.reserve.run es).1.put w.pending.length (some (w.pendingOf cell d)),
        ⟨.pending w.pending.length, [], []⟩ :: (w.reserve.run es).2) := by
  have hk : w.pending.length < w.reserve.pending.length := by simp [reserve]
  simp only [run, step_begin h, run_put _ es hs hk]

/-- Awaiting a call that waits. -/
theorem step_await_put (w : World) (b : Backend) (q : Pending) (hk : k < w.pending.length) :
    (w.put k (some q)).step b (.await k) = ((w.await b q).1.put k none, (w.await b q).2) := by
  have htake : (w.put k (some q)).take? k = some (q, w.put k none) := by
    simp only [take?, put, List.getD_eq_getElem?_getD, List.getElem?_set_self hk, Option.getD_some,
      Option.map_some, List.set_set]
  simp only [step, htake]
  exact await_put w b q

/-- Dropping a call that waits. -/
theorem step_drop {q : Pending} (h : w.pending[k]? = some (some q)) (b : Backend) :
    w.step b (.drop k) = (w.put k none, ⟨.dropped, [], []⟩) := by
  simp only [step, take?, List.getD_eq_getElem?_getD, h, Option.getD_some, Option.map_some, put]

/-- **A call that was begun** is awaited as if it had not waited: whatever was done in between, it
does what its pending call does now. -/
theorem step_await_begun {r : SessionRef} {cell : Cell} (h : w.resolve r = .ok cell)
    (b₀ b : Backend) (d : Demand) (es : List (Backend × Step))
    (hs : ∀ e ∈ es, e.2.takes w.pending.length = false) :
    let v := (w.run ((b₀, .begin r d) :: es)).1
    v.step b (.await w.pending.length) =
      ((v.await b (w.pendingOf cell d)).1.put w.pending.length none,
        (v.await b (w.pendingOf cell d)).2) := by
  have hk : w.pending.length < (w.reserve.run es).1.pending.length :=
    Nat.lt_of_lt_of_le (by simp [reserve]) (length_pending_run w.reserve es)
  simp only [run_begin h b₀ d es hs, step_await_put _ b _ hk, await_put, put_put]

/-! ## Calls over whole runs -/

/-- **Calls that wait**, after a history. -/
structure Deferred (h : History) (w : World) : Prop where
  /-- Beginning a call of a session notes it under a new number, and does nothing else. -/
  begins : ∀ b r cell d, h.named? r = some cell → ∃ p,
    w.step b (.begin r d) =
      ({ w with pending := w.pending ++ [some p] }, ⟨.pending w.pending.length, [], []⟩)
  /-- Dropping a call that waits forgets it, and does nothing else. -/
  drops : ∀ b k p, w.pending[k]? = some (some p) →
    w.step b (.drop k) = ({ w with pending := w.pending.set k none }, ⟨.dropped, [], []⟩)
  /-- Whatever is done after a call was begun, awaiting it is a direct call with the record that its
  session held then. The call waits no more. -/
  awaits : ∀ b₀ r cell d, h.named? r = some cell → d.isFixed →
    ∃ record, h.last? cell = some record ∧
      ∀ es, (∀ e ∈ es, e.2.takes w.pending.length = false) → ∀ b,
        let v := (w.run ((b₀, .begin r d) :: es)).1
        v.step b (.await w.pending.length) =
          ((v.step b (.direct record d)).1.put w.pending.length none,
            (v.step b (.direct record d)).2)

/-- **Calls send what their session held when they were begun.** After every run, beginning and
dropping a call change nothing that others see, and awaiting one is a direct call with the record of
that time, whatever was saved, removed, called, begun, awaited or dropped in between. -/
theorem deferred_of_run (e : Endpoints) (max : Nat) (es : List (Backend × Step)) :
    Deferred ((start e max).history es) ((start e max).run es).1 := by
  have hs := run_stored e max es
  generalize (start e max).history es = h at hs ⊢
  generalize ((start e max).run es).1 = w at hs ⊢
  refine ⟨?_, ?_, ?_⟩
  · intro b r cell d hn
    exact ⟨w.pendingOf cell d, withCell_of_ok (hs.resolve hn) _⟩
  · intro b k p hp
    exact step_drop hp b
  · intro b₀ r cell d hn hd
    obtain ⟨record, hl⟩ := hs.last_isSome (History.named?_lt hn)
    refine ⟨record, hl, ?_⟩
    intro es hes b v
    -- What waits is an order with the record of now, so that its session matters no more.
    have hawait : v.await b (w.pendingOf cell d) = v.step b (.direct record d) := by
      rw [← hs.recordAt hl]
      cases d with
      | decideText text => cases hd
      | _ => rfl
    rw [← hawait]
    exact step_await_begun (hs.resolve hn) b₀ b d es hes

end World

end Teller
