import Teller.Proofs.Endpoints
import Teller.Proofs.Session.Manager
import Teller.Proofs.Session.Run

/-!
# The register over whole runs

The register counts its slots apart from its sessions, and the gauge is a third number. Over every
run that draws each id once they agree.

* `History.opened`, `History.closed`: the ids that a history opened and closed.
* `World.Balanced`: the invariant. The opened ids are the closed ones and those in the register, the
  counter is the number of sessions, and the gauge is that number once it was set.
* `run_balanced`: every run keeps it.
* `World.Registered`: what the invariant means for the next creation and the next removal;
  `registered_of_run`: it holds after every run.
-/

namespace Teller

open Http (Backend)

/-! ## Ids in a history -/

/-- The id that a step opened. -/
def openedBy : Step × Report → Option SessionId
  | (.create _ _, ⟨.created id, _, _⟩) => some id
  | _ => none

/-- The id that a step closed. -/
def closedBy : Step × Report → Option SessionId
  | (.remove id, ⟨.session _, _, _⟩) => some id
  | _ => none

namespace History

/-- The ids of all sessions that were opened. -/
def opened (h : History) : List SessionId := h.filterMap openedBy

/-- The ids of all sessions that were closed. -/
def closed (h : History) : List SessionId := h.filterMap closedBy

end History

/-! ## The invariant -/

namespace World

variable {max : Nat} {h : History} {w : World} {b : Backend} {s : Step}

/-- **The register agrees with its history**: the opened ids are the closed ones and those that it
holds, its counter is the number of its sessions, and the gauge shows that number once it was
set. -/
structure Balanced (max : Nat) (h : History) (w : World) : Prop where
  max_eq : w.manager.max = max
  ids : h.opened.Perm (h.closed ++ w.manager.ids)
  reserved : w.manager.reserved = w.manager.length
  le_max : w.manager.length ≤ max
  gauge : w.metrics.active = if h.opened = [] then none else some w.manager.length

theorem balanced_start (e : Endpoints) (max : Nat) : Balanced max [] (start e max) :=
  ⟨rfl, List.Perm.refl _, rfl, Nat.zero_le _, rfl⟩

/-- Steps that neither open nor close a session keep the invariant. -/
theorem Balanced.of_same {r : Report} {v : World} (hb : Balanced max h w)
    (hm : v.manager = w.manager) (ha : v.metrics.active = w.metrics.active)
    (ho : openedBy (s, r) = none) (hc : closedBy (s, r) = none) : Balanced max ((s, r) :: h) v := by
  have hopened : History.opened ((s, r) :: h) = h.opened := List.filterMap_cons_none ho
  have hclosed : History.closed ((s, r) :: h) = h.closed := List.filterMap_cons_none hc
  refine ⟨?_, ?_, ?_, ?_, ?_⟩
  · rw [hm]; exact hb.max_eq
  · rw [hopened, hclosed, hm]; exact hb.ids
  · rw [hm]; exact hb.reserved
  · rw [hm]; exact hb.le_max
  · rw [hopened, hm, ha]; exact hb.gauge

/-- One session more, under an id that is new. -/
theorem Balanced.create (hb : Balanced max h w) {id : SessionId} {record : Record} {m : Manager}
    (hid : id ∉ h.opened) (hm : w.manager.open? id w.cells.length = some m) (hlog : List Event) :
    Balanced max ((.create id record, ⟨.created id, hlog, []⟩) :: h)
      ((w.allocate record).withManager m) := by
  have hnew : id ∉ w.manager.ids := fun hmem => hid (hb.ids.mem_iff.2 (List.mem_append_right _ hmem))
  have hlt : w.manager.reserved < w.manager.max := by
    by_contra hge
    rw [Manager.open?_eq_none_iff.2 (Nat.le_of_not_lt hge)] at hm
    cases hm
  rw [Manager.open?_of_new hlt hnew] at hm
  cases hm
  have hres := hb.reserved
  have hmax := hb.max_eq
  refine ⟨hmax, ?_, ?_, ?_, ?_⟩
  · exact (hb.ids.cons id).trans List.perm_middle.symm
  · simp only [withManager, Manager.length, List.length_cons] at hres ⊢
    omega
  · simp only [withManager, Manager.length, List.length_cons] at hres ⊢
    omega
  · rfl

/-- One session less. Its id stood once in the register, and its slot was taken. -/
theorem Balanced.remove (hb : Balanced max h w) (hn : h.opened.Nodup) {id : SessionId} {cell : Cell}
    {m : Manager} (hm : w.manager.close? id = some (cell, m)) (hlog : List Event) :
    Balanced max ((.remove id, ⟨.session cell, hlog, []⟩) :: h) (w.withManager m) := by
  have hnodup : w.manager.ids.Nodup := List.Nodup.of_append_right (hb.ids.nodup_iff.1 hn)
  have hid : id ∈ w.manager.ids := by
    by_contra hne
    rw [Manager.close?_eq_none_iff.2 hne] at hm
    cases hm
  have hpos : 0 < w.manager.length := by
    rw [← Manager.length_ids]
    exact List.length_pos_of_mem hid
  have hres := hb.reserved
  obtain ⟨hids, hback, hmaxEq⟩ := Manager.close?_spec hnodup (by omega) hm
  have hlen : w.manager.length = m.length + 1 := by
    rw [← Manager.length_ids, hids.length_eq, List.length_cons, Manager.length_ids]
  -- What is removed was opened, so the gauge was set already.
  have hopen : h.opened ≠ [] := by
    intro h0
    have := hb.ids.mem_iff.2 (List.mem_append_right h.closed hid)
    rw [h0] at this
    cases this
  refine ⟨hmaxEq.trans hb.max_eq, ?_, ?_, ?_, ?_⟩
  · exact hb.ids.trans ((List.Perm.append_left _ hids).trans List.perm_middle)
  · simp only [withManager]
    omega
  · have := hb.le_max
    simp only [withManager]
    omega
  · exact (if_neg hopen).symm

/-- **Every step keeps the register balanced**, as long as no id is drawn twice. -/
theorem balanced_step (hb : Balanced max h w)
    (hn : (History.opened ((s, (w.step b s).2) :: h)).Nodup) :
    Balanced max ((s, (w.step b s).2) :: h) (w.step b s).1 := by
  -- Calls keep register and gauge; of the other steps only two touch them.
  by_cases hs : s.isQuiet
  · have hsame := step_sameStore w b hs
    refine hb.of_same hsame.manager hsame.active ?_ ?_ <;> cases s <;> first | rfl | cases hs
  cases s with
  | create id record =>
    simp only [step] at hn ⊢
    cases hm : w.manager.open? id w.cells.length with
    | none => exact hb.of_same rfl rfl rfl rfl
    | some m =>
      rw [hm] at hn
      exact hb.create (List.nodup_cons.1 hn).1 hm _
  | remove id =>
    simp only [step] at hn ⊢
    cases hm : w.manager.close? id with
    | none => exact hb.of_same rfl rfl rfl rfl
    | some p =>
      rw [hm] at hn
      exact hb.remove hn hm _
  | detached record => exact hb.of_same rfl rfl rfl rfl
  | save r record =>
    simp only [step, withCell]
    cases w.resolve r <;> exact hb.of_same rfl rfl rfl rfl
  | load r =>
    simp only [step, withCell]
    cases w.resolve r <;> exact hb.of_same rfl rfl rfl rfl
  | _ => exact absurd rfl hs

/-- **Every run keeps the register balanced**, as long as no id is drawn twice. -/
theorem run_balanced (e : Endpoints) (max : Nat) (es : List (Backend × Step))
    (hn : ((start e max).history es).opened.Nodup) :
    Balanced max ((start e max).history es) ((start e max).run es).1 := by
  -- The ids of a run are distinct only if those of its beginning are.
  revert hn
  refine run_induction (motive := fun h w => h.opened.Nodup → Balanced max h w)
    (fun _ => balanced_start e max) ?_ es
  intro h v b s ih hn
  have hsub : h.opened.Sublist (History.opened ((s, (v.step b s).2) :: h)) := by
    unfold History.opened
    exact (List.sublist_cons_self _ h).filterMap _
  exact balanced_step (ih (hn.sublist hsub)) hn

/-! ## What the register does next -/

/-- **A register with its history**, and what comes of the next creation and the next removal. -/
structure Registered (max : Nat) (h : History) (w : World) : Prop where
  /-- Every slot that is taken belongs to a session. -/
  reserved : w.manager.reserved = w.manager.length
  le_max : w.manager.length ≤ max
  /-- Sessions were opened and not closed. -/
  length : w.manager.length + h.closed.length = h.opened.length
  mem : ∀ id, (w.manager.find? id).isSome ↔ id ∈ h.opened ∧ id ∉ h.closed
  /-- No session was closed twice, and none that was not opened. -/
  closed : h.closed.Nodup ∧ h.closed ⊆ h.opened
  /-- The gauge is set by the first session. -/
  gauge : w.metrics.active = if h.opened = [] then none else some w.manager.length
  /-- A session is opened exactly while there are fewer than `max`. -/
  opens : ∀ b id record,
    (w.step b (.create id record)).2.answer = .created id ↔ w.manager.length < max
  /-- A refused creation changes nothing. -/
  refuses : ∀ b id record, ¬ w.manager.length < max →
    w.step b (.create id record) = (w, ⟨.failed (.limit max), [.limitReached max], []⟩)
  /-- Nothing is there to be closed under an id that was never opened or is closed already. -/
  absent : ∀ b id, id ∉ h.opened ∨ id ∈ h.closed →
    w.step b (.remove id) = (w, ⟨.nothing, [], []⟩)
  /-- Any other session is closed, and its slot is the one that is given back. -/
  closes : ∀ b id, id ∈ h.opened → id ∉ h.closed →
    ∃ cell, (w.step b (.remove id)).2.answer = .session cell ∧
      (w.step b (.remove id)).1.manager.reserved + 1 = w.manager.reserved

theorem Balanced.registered (hb : Balanced max h w) (hn : h.opened.Nodup) : Registered max h w := by
  have hnodup := hb.ids.nodup_iff.1 hn
  have hmem : ∀ id, id ∈ w.manager.ids ↔ id ∈ h.opened ∧ id ∉ h.closed := by
    intro id
    rw [hb.ids.mem_iff, List.mem_append]
    constructor
    · intro hid
      exact ⟨Or.inr hid, fun hc => List.disjoint_of_nodup_append hnodup hc hid⟩
    · rintro ⟨hc | hid, hnc⟩
      · exact absurd hc hnc
      · exact hid
  have hmax := hb.max_eq
  have hres := hb.reserved
  have hrefuse : ∀ b id record, ¬ w.manager.length < max →
      w.step b (.create id record) =
        (w, ⟨.failed (.limit max), [.limitReached max], []⟩) := by
    intro b id record hge
    have hnone : w.manager.open? id w.cells.length = none :=
      Manager.open?_eq_none_iff.2 (by omega)
    simp only [step, hnone, hmax]
  refine
    { reserved := hres
      le_max := hb.le_max
      length := ?_
      mem := fun id => Manager.find?_isSome_iff.trans (hmem id)
      closed := ⟨List.Nodup.of_append_left hnodup,
        fun id hid => hb.ids.mem_iff.2 (List.mem_append_left _ hid)⟩
      gauge := hb.gauge
      opens := ?_
      refuses := hrefuse
      absent := ?_
      closes := ?_ }
  · rw [hb.ids.length_eq, List.length_append, Manager.length_ids, Nat.add_comm]
  · intro b id record
    constructor
    · intro hans
      by_contra hge
      rw [hrefuse b id record hge] at hans
      cases hans
    · intro hlt
      have hsome : w.manager.open? id w.cells.length ≠ none := by
        rw [Ne, Manager.open?_eq_none_iff]
        omega
      obtain ⟨m, hm⟩ := Option.ne_none_iff_exists'.1 hsome
      simp only [step, hm]
  · intro b id hid
    have hnot : id ∉ w.manager.ids := by
      rw [hmem id]
      rintro ⟨ho, hc⟩
      exact hid.elim (fun hno => hno ho) hc
    simp only [step, Manager.close?_eq_none_iff.2 hnot]
  · intro b id ho hc
    have hid : id ∈ w.manager.ids := (hmem id).2 ⟨ho, hc⟩
    have hsome : w.manager.close? id ≠ none := by
      rw [Ne, Manager.close?_eq_none_iff, not_not]
      exact hid
    obtain ⟨⟨cell, m⟩, hm⟩ := Option.ne_none_iff_exists'.1 hsome
    have hpos : 0 < w.manager.reserved := by
      rw [hres, ← Manager.length_ids]
      exact List.length_pos_of_mem hid
    have hback := (Manager.close?_spec (List.Nodup.of_append_right hnodup) hpos hm).2.1
    refine ⟨cell, ?_, ?_⟩ <;> simp only [step, hm]
    exact hback

/-- **The register over whole runs.** After every run from an empty register whose drawn ids are
pairwise distinct, whatever the backends answer, counter, register and gauge agree with what was
opened and closed, a session is opened exactly while there is room, and only a session that is there
is closed. -/
theorem registered_of_run (e : Endpoints) (max : Nat) (es : List (Backend × Step))
    (hn : ((start e max).history es).opened.Nodup) :
    Registered max ((start e max).history es) ((start e max).run es).1 :=
  (run_balanced e max es hn).registered hn

/-- A register for one session: the second creation is refused, the second removal finds nothing,
and the freed slot is taken again. -/
def reopening : List (Backend × Step) :=
  [.create (.repeated 1) {}, .create (.repeated 2) {}, .remove (.repeated 1),
    .remove (.repeated 1), .create (.repeated 3) {}].map fun s => (Http.Backend.unreachable, s)

theorem registered_after_reopening :
    ((start .small 1).history reopening).opened.Nodup ∧
      ((start .small 1).history reopening).opened = [.repeated 3, .repeated 1] ∧
      ((start .small 1).history reopening).closed = [.repeated 1] ∧
      Registered 1 ((start .small 1).history reopening) ((start .small 1).run reopening).1 :=
  ⟨by decide, by decide, by decide, registered_of_run _ _ _ (by decide)⟩

end World

end Teller
