import Teller.Proofs.Session.Manager
import Teller.Proofs.Session.Run

/-!
# Sessions as a heap of records

Who holds a session shares its record with everybody else who does, whether by its id or by a
handle, and a removed session lives on with those who hold it. The other side of this is the history
alone: what was saved last, under whatever name.

* `History.named?`: the session that an id or a handle stands for after a history.
* `History.last?`: the record that a session was given last; `History.loaded`: what was loaded.
* `World.Stored`: the simulation. Cells, register and snapshots are what the history says.
* `World.Faithful`: what every operation answers then; `faithful_of_run`: it holds after every run.
-/

namespace Teller

open Http (Backend)

namespace History

/-- A step made a session. -/
def makes : Step × Report → Bool
  | (.create _ _, ⟨.created _, _, _⟩) | (.detached _, _) => true
  | _ => false

/-- The number of sessions that were made. Sessions are numbered as they are made. -/
def made (h : History) : Nat := h.countP makes

/-- A step created a session under an id. -/
def creates (id : SessionId) : Step × Report → Bool
  | (.create i _, ⟨.created _, _, _⟩) => i = id
  | _ => false

/-- A step was to remove the session of an id. -/
def removes (id : SessionId) : Step × Report → Bool
  | (.remove i, _) => i = id
  | _ => false

/-- The session that goes by an id: the one that was created under it, until it is removed. -/
def owner? (id : SessionId) : History → Option Cell
  | [] => none
  | e :: h => if creates id e then some (made h) else if removes id e then none else owner? id h

/-- The session that a reference stands for. A handle stands for its session for ever. -/
def named? (h : History) : SessionRef → Option Cell
  | .managed id => h.owner? id
  | .held cell => if cell < h.made then some cell else none

/-- The session that a step gives a record, and the record. -/
def written? (h : History) : Step × Report → Option (Cell × Record)
  | (.create _ record, ⟨.created _, _, _⟩) | (.detached record, _) => some (h.made, record)
  | (.save s record, _) => (h.named? s).map (·, record)
  | _ => none

/-- The record that a session was given last. -/
def last? (cell : Cell) : History → Option Record
  | [] => none
  | e :: h =>
    match written? h e with
    | some (c, record) => if c = cell then some record else last? cell h
    | none => last? cell h

/-- All records that were loaded, the first one first. -/
def loaded : History → List Record
  | [] => []
  | (.load _, ⟨.loaded _ record, _, _⟩) :: h => loaded h ++ [record]
  | _ :: h => loaded h

variable {h : History} {e : Step × Report} {s : Step} {r : Report} {id : SessionId} {cell : Cell}

theorem last?_of_written {record : Record} (hw : h.written? e = some (cell, record)) :
    last? cell (e :: h) = some record := by
  simp only [last?, hw, if_pos]

theorem last?_of_other (hw : ∀ record, h.written? e ≠ some (cell, record)) :
    last? cell (e :: h) = last? cell h := by
  simp only [last?]
  split
  · rename_i c record hc
    rw [if_neg]
    rintro rfl
    exact hw record hc
  · rfl

theorem made_cons (e : Step × Report) (h : History) :
    made (e :: h) = h.made + if makes e then 1 else 0 := List.countP_cons

theorem makes_of_creates (hc : creates id e) : makes e := by
  revert hc
  unfold creates
  split
  · exact fun _ => rfl
  · exact fun hc => absurd hc Bool.false_ne_true

/-- A session that goes by an id was made. -/
theorem owner?_lt (ho : h.owner? id = some cell) : cell < h.made := by
  induction h with
  | nil => cases ho
  | cons e h ih =>
    rw [made_cons]
    simp only [owner?] at ho
    split_ifs at ho with hc hr
    · cases ho
      rw [if_pos (makes_of_creates hc)]
      exact Nat.lt_succ_self _
    · exact Nat.lt_add_right _ (ih ho)

theorem creates_eq_true_iff : creates id e ↔
    ∃ record r log requests, e = (.create id record, ⟨.created r, log, requests⟩) := by
  constructor
  · intro hc
    unfold creates at hc
    split at hc
    · rename_i i record r log requests
      obtain rfl : i = id := of_decide_eq_true hc
      exact ⟨record, r, log, requests, rfl⟩
    · exact absurd hc Bool.false_ne_true
  · rintro ⟨record, r, log, requests, rfl⟩
    exact decide_eq_true rfl

/-- No session goes by two ids. -/
theorem owner?_inj {id' : SessionId} (ho : h.owner? id = some cell)
    (ho' : h.owner? id' = some cell) : id = id' := by
  induction h with
  | nil => cases ho
  | cons e h ih =>
    -- a session that was created just now has a number that none had before
    have hnew : ∀ i, owner? i h ≠ some (made h) := fun i hi => Nat.lt_irrefl _ (owner?_lt hi)
    simp only [owner?] at ho ho'
    split_ifs at ho ho' with hc hc' hr' hr hc' hr'
    · obtain ⟨_, _, _, _, rfl⟩ := creates_eq_true_iff.1 hc
      obtain ⟨_, _, _, _, he⟩ := creates_eq_true_iff.1 hc'
      cases he
      rfl
    · cases ho
      exact absurd ho' (hnew id')
    · cases ho'
      exact absurd ho (hnew id)
    · exact ih ho ho'

/-- Whatever a reference stands for was made. -/
theorem named?_lt {s : SessionRef} (hn : h.named? s = some cell) : cell < h.made := by
  cases s with
  | managed id => exact owner?_lt hn
  | held c =>
    simp only [named?] at hn
    split_ifs at hn with hc
    cases hn
    exact hc

end History

/-! ## The simulation -/

namespace World

variable {h : History} {w : World} {b : Backend} {s : Step}

/-- **The world holds what the history says**: as many cells as sessions were made, in each of them
the record that was saved last, in the register the sessions that go by an id, and the snapshots of
all loads. -/
structure Stored (h : History) (w : World) : Prop where
  made : w.cells.length = h.made
  last : ∀ cell, w.cells[cell]? = h.last? cell
  owner : ∀ id, w.manager.find? id = h.owner? id
  loaded : w.snapshots = h.loaded

theorem stored_start (e : Endpoints) (max : Nat) : Stored [] (start e max) :=
  ⟨rfl, fun _ => rfl, fun _ => rfl, rfl⟩

/-- A reference that stands for a session is resolved to it. -/
theorem Stored.resolve (hs : Stored h w) {r : SessionRef} {cell : Cell}
    (hn : h.named? r = some cell) : w.resolve r = .ok cell := by
  cases r with
  | managed id =>
    have := (hs.owner id).trans hn
    simp only [World.resolve, this]
  | held c =>
    simp only [History.named?] at hn
    split_ifs at hn
    cases hn
    rfl

/-- An id that stands for no session is not found. -/
theorem Stored.resolve_none (hs : Stored h w) {id : SessionId} (hn : h.owner? id = none) :
    w.resolve (.managed id) = .error (.notFound id) := by
  have := (hs.owner id).trans hn
  simp only [World.resolve, this]

theorem Stored.recordAt (hs : Stored h w) {cell : Cell} {record : Record}
    (hl : h.last? cell = some record) : w.recordAt cell = record := by
  rw [World.recordAt, List.getD_eq_getElem?_getD, hs.last, hl]
  rfl

/-- Every session that was made has a record. -/
theorem Stored.last_isSome (hs : Stored h w) {cell : Cell} (hc : cell < h.made) :
    ∃ record, h.last? cell = some record := by
  rw [← hs.made] at hc
  exact ⟨w.cells[cell], by rw [← hs.last, List.getElem?_eq_getElem hc]⟩

/-- Steps that neither make, remove, save nor load a session keep the simulation. -/
theorem Stored.of_silent (hs : Stored h w) {e : Step × Report} {v : World}
    (hm : History.makes e = false) (hr : ∀ id, History.removes id e = false)
    (hw : h.written? e = none) (hl : History.loaded (e :: h) = h.loaded)
    (hcells : v.cells = w.cells) (hman : v.manager = w.manager)
    (hsnap : v.snapshots = w.snapshots) : Stored (e :: h) v := by
  refine ⟨?_, ?_, ?_, ?_⟩
  · rw [hcells, hs.made, History.made_cons, hm]
    rfl
  · intro cell
    have hne : ∀ record, h.written? e ≠ some (cell, record) := by
      intro record hsome
      rw [hw] at hsome
      cases hsome
    rw [hcells, hs.last, History.last?_of_other hne]
  · intro id
    have hc : ¬ History.creates id e := by
      intro hc
      rw [History.makes_of_creates hc] at hm
      cases hm
    rw [hman, hs.owner, History.owner?, if_neg hc, hr id]
    rfl
  · rw [hsnap, hs.loaded, hl]

/-- A new cell holds the record that its session was made with, and all others what they held. -/
theorem Stored.last_allocate (hs : Stored h w) {e : Step × Report} {record : Record}
    (hw : h.written? e = some (h.made, record)) (cell : Cell) :
    (w.cells ++ [record])[cell]? = History.last? cell (e :: h) := by
  by_cases hc : h.made = cell
  · subst hc
    rw [History.last?_of_written hw, ← hs.made]
    simp
  · have hne : ∀ r, h.written? e ≠ some (cell, r) := by
      intro r hr
      rw [hw] at hr
      cases hr
      exact hc rfl
    rw [History.last?_of_other hne, ← hs.last]
    rw [← hs.made] at hc
    rcases Nat.lt_or_gt_of_ne hc with hlt | hgt
    · have hlen : (w.cells ++ [record]).length ≤ cell := by
        rw [List.length_append]
        exact hlt
      rw [List.getElem?_eq_none hlen, List.getElem?_eq_none (Nat.le_of_lt hlt)]
    · exact List.getElem?_append_left hgt

theorem Stored.create (hs : Stored h w) {id : SessionId} {record : Record} {m : Manager}
    (hm : w.manager.open? id w.cells.length = some m) (log : List Event) :
    Stored ((.create id record, ⟨.created id, log, []⟩) :: h)
      ((w.allocate record).withManager m) := by
  refine ⟨?_, hs.last_allocate rfl, ?_, hs.loaded⟩
  · simp [withManager, allocate, hs.made, History.made_cons, History.makes]
  · intro i
    refine (Manager.find?_of_open? hm i).trans ?_
    simp only [History.owner?, History.creates, History.removes, hs.made, decide_eq_true_eq]
    by_cases hi : id = i
    · rw [if_pos hi, if_pos hi]
    · rw [if_neg hi, if_neg hi, hs.owner]
      rfl

theorem Stored.detached (hs : Stored h w) (record : Record) (r : Report) :
    Stored ((.detached record, r) :: h) (w.allocate record) := by
  refine ⟨?_, hs.last_allocate rfl, ?_, hs.loaded⟩
  · simp [allocate, hs.made, History.made_cons, History.makes]
  · exact hs.owner

theorem Stored.remove (hs : Stored h w) {id : SessionId} {cell : Cell} {m : Manager}
    (hm : w.manager.close? id = some (cell, m)) (r : Report) :
    Stored ((.remove id, r) :: h) (w.withManager m) := by
  refine ⟨hs.made, hs.last, ?_, hs.loaded⟩
  intro i
  rw [History.owner?, if_neg (by exact Bool.false_ne_true)]
  refine ((Manager.find?_of_close? hm).2 i).trans ?_
  rw [hs.owner]
  simp [History.removes]

/-- Saving sets the cell of the session that the reference stands for. -/
theorem Stored.save (hs : Stored h w) {r : SessionRef} {cell : Cell} (record : Record)
    (hn : h.named? r = some cell) (report : Report) :
    Stored ((.save r record, report) :: h) { w with cells := w.cells.set cell record } := by
  have hw : h.written? (.save r record, report) = some (cell, record) := by
    simp only [History.written?, hn, Option.map_some]
  have hlt : cell < w.cells.length := by
    rw [hs.made]
    exact History.named?_lt hn
  refine ⟨?_, ?_, hs.owner, hs.loaded⟩
  · rw [List.length_set]
    exact hs.made
  · intro c
    by_cases hc : cell = c
    · subst hc
      rw [History.last?_of_written hw, List.getElem?_set_self hlt]
    · have hne : ∀ r', h.written? (.save r record, report) ≠ some (c, r') := by
        intro r' hr'
        rw [hw] at hr'
        cases hr'
        exact hc rfl
      rw [History.last?_of_other hne, List.getElem?_set_ne hc]
      exact hs.last c

/-- **Every step keeps the simulation.** -/
theorem stored_step (hs : Stored h w) : Stored ((s, (w.step b s).2) :: h) (w.step b s).1 := by
  by_cases hq : s.isQuiet
  · have hsame := step_sameStore w b hq
    refine hs.of_silent ?_ ?_ ?_ ?_ hsame.cells hsame.manager hsame.snapshots <;>
      cases s <;> first | rfl | exact fun _ => rfl | cases hq
  cases s with
  | create id record =>
    simp only [step]
    cases hm : w.manager.open? id w.cells.length with
    | none => exact hs.of_silent rfl (fun _ => rfl) rfl rfl rfl rfl rfl
    | some m => exact hs.create hm _
  | detached record => exact hs.detached record _
  | remove id =>
    simp only [step]
    cases hm : w.manager.close? id with
    | none =>
      -- nothing was removed, but nothing went by this id either
      have hnone : w.manager.find? id = none := Option.map_eq_none_iff.1 hm
      refine ⟨hs.made, hs.last, fun i => ?_, hs.loaded⟩
      rw [History.owner?, if_neg (by exact Bool.false_ne_true), ← hs.owner i]
      by_cases hi : id = i
      · simp [← hi, hnone, History.removes]
      · simp [History.removes, hi]
    | some p => exact hs.remove hm _
  | save r record =>
    cases hn : h.named? r with
    | some cell =>
      simp only [step]
      rw [withCell_of_ok (hs.resolve hn)]
      exact hs.save record hn _
    | none =>
      have hw : ∀ report, h.written? (.save r record, report) = none := by
        intro report
        simp only [History.written?, hn, Option.map_none]
      cases r with
      | managed id =>
        simp only [step]
        rw [withCell_of_error (hs.resolve_none hn)]
        exact hs.of_silent rfl (fun _ => rfl) (hw _) rfl rfl rfl rfl
      | held cell =>
        have hge : w.cells.length ≤ cell := by
          rw [hs.made]
          by_contra hlt
          simp [History.named?, Nat.lt_of_not_le hlt] at hn
        exact hs.of_silent rfl (fun _ => rfl) (hw _) rfl (List.set_eq_of_length_le hge) rfl rfl
  | load r =>
    simp only [step]
    cases hr : w.resolve r with
    | error e =>
      rw [withCell_of_error hr]
      exact hs.of_silent rfl (fun _ => rfl) rfl rfl rfl rfl rfl
    | ok cell =>
      rw [withCell_of_ok hr]
      refine ⟨hs.made, hs.last, hs.owner, ?_⟩
      simp only [History.loaded, hs.loaded]
  | _ => exact absurd rfl hq

/-- **Every run keeps the simulation.** -/
theorem run_stored (e : Endpoints) (max : Nat) (es : List (Backend × Step)) :
    Stored ((start e max).history es) ((start e max).run es).1 :=
  run_induction (stored_start e max) (fun _ _ _ _ hs => stored_step hs) es

/-! ## What the operations answer -/

/-- Snapshots stay as they are; loads only add to them. -/
theorem step_snapshots (w : World) (b : Backend) (s : Step) :
    w.snapshots <+: (w.step b s).1.snapshots := by
  by_cases hq : s.isQuiet
  · have hsame := (step_sameStore w b hq).snapshots
    exact hsame.symm ▸ List.prefix_refl _
  cases s with
  | create id record =>
    simp only [step]
    cases w.manager.open? id w.cells.length <;> exact List.prefix_refl _
  | remove id =>
    simp only [step]
    cases w.manager.close? id <;> exact List.prefix_refl _
  | save r record =>
    simp only [step, withCell]
    cases w.resolve r <;> exact List.prefix_refl _
  | load r =>
    simp only [step, withCell]
    cases w.resolve r with
    | error e => exact List.prefix_refl _
    | ok cell => exact List.prefix_append _ _
  | detached record => exact List.prefix_refl _
  | _ => exact absurd rfl hq

theorem run_snapshots (w : World) (es : List (Backend × Step)) :
    w.snapshots <+: (w.run es).1.snapshots := by
  induction es generalizing w with
  | nil => exact List.prefix_refl _
  | cons e es ih => exact (step_snapshots w e.1 e.2).trans (ih _)

end World

/-- The session that a step names. -/
def Step.session? : Step → Option SessionRef
  | .get r | .save r _ | .load r | .call r _ | .begin r _ => some r
  | _ => none

namespace World

variable {h : History} {w : World} {b : Backend} {s : Step}

/-- **Sessions after a history.** A reference that stands for a session reads and writes the record
of this session, and an id that stands for none is not found. -/
structure Faithful (h : History) (w : World) : Prop where
  /-- Loading gives the record that was saved last, whole, by whatever name the session goes. -/
  load : ∀ b r cell, h.named? r = some cell → ∃ record, h.last? cell = some record ∧
    w.step b (.load r) =
      ({ w with snapshots := w.snapshots ++ [record] },
        ⟨.loaded h.loaded.length record, [], []⟩)
  /-- Saving changes the record of the one session. -/
  save : ∀ b r cell record, h.named? r = some cell →
    w.step b (.save r record) =
      ({ w with cells := w.cells.set cell record }, ⟨.saved, [], []⟩)
  /-- No step changes the record of a session that it does not write to. -/
  other : ∀ b s cell, cell < h.made →
    (∀ record, h.written? (s, (w.step b s).2) ≠ some (cell, record)) →
    (w.step b s).1.recordAt cell = w.recordAt cell
  /-- Calls, made or pending, change no session, no record and no snapshot. -/
  quiet : ∀ b s, s.isQuiet → SameStore (w.step b s).1 w
  /-- A call sends the record that was saved last. -/
  call : ∀ b r cell d, h.named? r = some cell → ∃ record, h.last? cell = some record ∧
    w.step b (.call r d) = w.step b (.direct record d)
  /-- Whoever asks for a session is handed the one that goes by this name. -/
  get : ∀ b r cell, h.named? r = some cell → w.step b (.get r) = (w, ⟨.session cell, [], []⟩)
  /-- What was loaded once stays as it was, whatever is done afterwards. -/
  recheck : ∀ k record, h.loaded[k]? = some record → ∀ es b,
    (w.run es).1.step b (.recheck k) = ((w.run es).1, ⟨.record record, [], []⟩)
  /-- An id that stands for no session is not found, and nothing happens. -/
  unknown : ∀ b id s, h.owner? id = none → s.session? = some (.managed id) →
    w.step b s = (w, ⟨.failed (.notFound id), [], []⟩)
  /-- Removing hands out the session and forgets its id; whoever holds the session keeps it, with
  its record. -/
  remove : ∀ b id cell, h.owner? id = some cell → ∃ v r,
    w.step b (.remove id) = (v, r) ∧ r.answer = .session cell ∧ v.cells = w.cells ∧
      History.owner? id ((.remove id, r) :: h) = none ∧
      History.named? ((.remove id, r) :: h) (.held cell) = some cell

/-- **Sessions are a heap of records.** After every run, whatever the backends answer, a session
holds the record that was last saved to it under any of its names. -/
theorem faithful_of_run (e : Endpoints) (max : Nat) (es : List (Backend × Step)) :
    Faithful ((start e max).history es) ((start e max).run es).1 := by
  have hs := run_stored e max es
  generalize (start e max).history es = h at hs ⊢
  generalize ((start e max).run es).1 = w at hs ⊢
  refine
    { load := ?_
      save := ?_
      other := ?_
      quiet := fun b s hq => step_sameStore w b hq
      call := ?_
      get := ?_
      recheck := ?_
      unknown := ?_
      remove := ?_ }
  · intro b r cell hn
    obtain ⟨record, hl⟩ := hs.last_isSome (History.named?_lt hn)
    refine ⟨record, hl, ?_⟩
    simp only [step]
    rw [withCell_of_ok (hs.resolve hn), hs.recordAt hl, hs.loaded]
  · intro b r cell record hn
    exact withCell_of_ok (hs.resolve hn) _
  · intro b s cell hc hw
    obtain ⟨record, hl⟩ := hs.last_isSome hc
    have hl' := (History.last?_of_other hw).trans hl
    rw [hs.recordAt hl, (stored_step hs).recordAt hl']
  · intro b r cell d hn
    obtain ⟨record, hl⟩ := hs.last_isSome (History.named?_lt hn)
    refine ⟨record, hl, ?_⟩
    rw [step_call (hs.resolve hn), hs.recordAt hl]
  · intro b r cell hn
    exact withCell_of_ok (hs.resolve hn) _
  · intro k record hk es b
    rw [← hs.loaded] at hk
    have hk' : (w.run es).1.snapshots[k]? = some record := by
      obtain ⟨later, hlater⟩ := run_snapshots w es
      obtain ⟨hlt, -⟩ := List.getElem?_eq_some_iff.1 hk
      rw [← hlater, List.getElem?_append_left hlt, hk]
    simp only [step, hk']
  · intro b id s ho hsess
    have herr := hs.resolve_none ho
    cases s with
    | get r | save r _ | load r | call r _ | begin r _ =>
      cases hsess
      exact withCell_of_error herr _
    | _ => cases hsess
  · intro b id cell ho
    have hsome : w.manager.close? id ≠ none := by
      rw [Ne, Manager.close?, Option.map_eq_none_iff, hs.owner, ho]
      exact Option.some_ne_none cell
    obtain ⟨⟨c, m⟩, hm⟩ := Option.ne_none_iff_exists'.1 hsome
    have hc : c = cell := by
      have := (hs.owner id).symm.trans (Manager.find?_of_close? hm).1
      rw [ho] at this
      exact (Option.some.inj this).symm
    subst hc
    refine ⟨w.withManager m, ⟨.session c, [.sessionRemoved id], []⟩, ?_, rfl, rfl, ?_, ?_⟩
    · simp only [step, hm]
    · simp [History.owner?, History.creates, History.removes]
    · have hlt := History.owner?_lt ho
      simp only [History.named?, History.made_cons, History.makes]
      exact if_pos hlt

end World

end Teller
