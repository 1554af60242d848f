import Teller.Client
import Teller.Metrics
import Teller.Session.Manager

/-!
# Sessions at work

A session holds one record and makes calls with it. Sessions live in a register under their ids, or
outside of it; whoever holds a session shares its record with everybody else who does.

A call can be made now and awaited later. It sends the record that the session held when it was
made. Only a call that decides a consent by a text puts everything off until it is awaited.

* `World`: the register, all records, calls that are not awaited yet, records that were loaded, and
  what was counted and received.
* `Step`: everything that can be done; `Answer`: what it gives.
* `World.step`: one step; `World.run`: one step after another.
-/

namespace Teller

open Http (Request Backend)

/-- A session: one in the register, or one that is held. -/
inductive SessionRef where
  | managed (id : SessionId)
  | held (cell : Cell)
deriving DecidableEq, Repr

/-- What a session is asked to do. -/
inductive Demand where
  | confirmTan
  | decide (decision : Decision)
  | decideText (text : String)
  | showPayment
deriving DecidableEq, Repr

/-- A call that is not awaited yet. -/
inductive Pending where
  /-- Everything that it sends is fixed. -/
  | ready (order : Order)
  /-- Neither decision nor record has been read. -/
  | unread (cell : Cell) (text : String)
deriving DecidableEq, Repr

/-- What can be done. A new session gets the id that was drawn for it. -/
inductive Step where
  | create (id : SessionId) (record : Record)
  | detached (record : Record)
  | get (s : SessionRef)
  | remove (id : SessionId)
  | save (s : SessionRef) (record : Record)
  | load (s : SessionRef)
  | recheck (snapshot : Nat)
  /-- A call of a session, awaited at once. -/
  | call (s : SessionRef) (demand : Demand)
  /-- A call without a session. -/
  | direct (record : Record) (demand : Demand)
  | begin (s : SessionRef) (demand : Demand)
  | await (pending : Nat)
  | drop (pending : Nat)
deriving DecidableEq, Repr

/-- What a step gives. -/
inductive Answer where
  | created (id : SessionId)
  | session (cell : Cell)
  | nothing
  | saved
  | loaded (snapshot : Nat) (record : Record)
  | record (record : Record)
  | pending (number : Nat)
  | dropped
  | called (result : Except CallError CallResult)
  /-- A text that is no decision. -/
  | undecided (text : String)
  | failed (error : SessionError)
  | noSnapshot
  | noPending

/-- What a step gives, what it logs, and the requests that reach the backend. -/
structure Report where
  answer : Answer
  log : List Event := []
  requests : List Request := []

/-- Everything that steps act on. -/
structure World where
  endpoints : Endpoints
  manager : Manager
  cells : List Record := []
  pending : List (Option Pending) := []
  snapshots : List Record := []
  /-- The requests that the backend received, the latest first. -/
  received : List Request := []
  metrics : Metrics := {}

namespace World

/-- A world without sessions. -/
def start (endpoints : Endpoints) (max : Nat) : World := { endpoints, manager := { max } }

/-- The record of a cell. -/
def recordAt (w : World) (cell : Cell) : Record := w.cells.getD cell {}

/-- The cell of a session. -/
def resolve (w : World) : SessionRef → Except SessionError Cell
  | .held cell => .ok cell
  | .managed id =>
    match w.manager.find? id with
    | some cell => .ok cell
    | none => .error (.notFound id)

/-- Acts on the cell of a session, if there is one. -/
def withCell (w : World) (s : SessionRef) (act : Cell → World × Report) : World × Report :=
  match w.resolve s with
  | .ok cell => act cell
  | .error e => (w, ⟨.failed e, [], []⟩)

/-- Makes a call with a fixed order. -/
def perform (backend : Backend) (w : World) (order : Order) : World × Report :=
  let p := order.perform backend w.received w.endpoints
  ({ w with received := p.requests.reverse ++ w.received
            metrics := w.metrics.record order.call (outcomeOf p.result) },
    ⟨.called p.result, p.log, p.requests⟩)

/-- Makes a call whose decision is a text. -/
def performText (backend : Backend) (w : World) (text : String) (record : Record) :
    World × Report :=
  match Decision.ofText? text with
  | some decision => w.perform backend (.consent record decision)
  | none => (w, ⟨.undecided text, [], []⟩)

/-- The call that a session makes of a demand. -/
def pendingOf (w : World) (cell : Cell) : Demand → Pending
  | .confirmTan => .ready (.tanConfirmation (w.recordAt cell))
  | .decide decision => .ready (.consent (w.recordAt cell) decision)
  | .decideText text => .unread cell text
  | .showPayment => .ready (.singlePayments (w.recordAt cell))

/-- Awaits a call. -/
def await (backend : Backend) (w : World) : Pending → World × Report
  | .ready order => w.perform backend order
  | .unread cell text => w.performText backend text (w.recordAt cell)

/-- Makes a call without a session. -/
def performDirect (backend : Backend) (w : World) (record : Record) : Demand → World × Report
  | .confirmTan => w.perform backend (.tanConfirmation record)
  | .decide decision => w.perform backend (.consent record decision)
  | .decideText text => w.performText backend text record
  | .showPayment => w.perform backend (.singlePayments record)

/-- A cell more. -/
def allocate (w : World) (record : Record) : World := { w with cells := w.cells ++ [record] }

/-- Sets the gauge to the number of sessions in a register that takes the place of the old one. -/
def withManager (w : World) (m : Manager) : World :=
  { w with manager := m, metrics := w.metrics.setActive m.length }

/-- Takes a call from those that are not awaited yet. -/
def take? (w : World) (k : Nat) : Option (Pending × World) :=
  (w.pending.getD k none).map fun p => (p, { w with pending := w.pending.set k none })

/-- **One step.** -/
def step (backend : Backend) (w : World) : Step → World × Report
  | .create id record =>
    match w.manager.open? id w.cells.length with
    | some m => ((w.allocate record).withManager m, ⟨.created id, [.sessionCreated id], []⟩)
    | none => (w, ⟨.failed (.limit w.manager.max), [.limitReached w.manager.max], []⟩)
  | .detached record => (w.allocate record, ⟨.session w.cells.length, [], []⟩)
  | .get s => w.withCell s fun cell => (w, ⟨.session cell, [], []⟩)
  | .remove id =>
    match w.manager.close? id with
    | some (cell, m) => (w.withManager m, ⟨.session cell, [.sessionRemoved id], []⟩)
    | none => (w, ⟨.nothing, [], []⟩)
  | .save s record => w.withCell s fun cell =>
    ({ w with cells := w.cells.set cell record }, ⟨.saved, [], []⟩)
  | .load s => w.withCell s fun cell =>
    let record := w.recordAt cell
    ({ w with snapshots := w.snapshots ++ [record] },
      ⟨.loaded w.snapshots.length record, [], []⟩)
  | .recheck k =>
    match w.snapshots[k]? with
    | some record => (w, ⟨.record record, [], []⟩)
    | none => (w, ⟨.noSnapshot, [], []⟩)
  | .call s demand => w.withCell s fun cell => w.await backend (w.pendingOf cell demand)
  | .direct record demand => w.performDirect backend record demand
  | .begin s demand => w.withCell s fun cell =>
    ({ w with pending := w.pending ++ [some (w.pendingOf cell demand)] },
      ⟨.pending w.pending.length, [], []⟩)
  | .await k =>
    match w.take? k with
    | some (p, w) => w.await backend p
    | none => (w, ⟨.noPending, [], []⟩)
  | .drop k =>
    match w.take? k with
    | some (_, w) => (w, ⟨.dropped, [], []⟩)
    | none => (w, ⟨.noPending, [], []⟩)

/-- One step after another, each with the backend that it meets, and what each of them gives. -/
def run (w : World) : List (Backend × Step) → World × List Report
  | [] => (w, [])
  | (backend, s) :: rest =>
    let (w, report) := w.step backend s
    let (w, reports) := w.run rest
    (w, report :: reports)

end World

end Teller
