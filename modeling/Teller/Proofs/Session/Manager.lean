import Mathlib.Data.List.Nodup
import Mathlib.Tactic.SplitIfs
import Teller.Session.Manager

/-!
# Entering and closing sessions

What the register holds once a session was entered or closed.

* `open?_of_new`: a new session takes a slot and stands in front of all others.
* `close?_spec`: closing takes one session and gives its slot back.
* `find?_of_open?`, `find?_of_close?`: who is found then.
-/

namespace Teller

namespace Manager

variable {m : Manager} {id : SessionId} {cell : Cell}

/-- The ids in the register. -/
def ids (m : Manager) : List SessionId := m.sessions.map Prod.fst

theorem length_ids (m : Manager) : m.ids.length = m.length := List.length_map ..

theorem lookup_cons_ne {α : Type} {id i : SessionId} (h : id ≠ i) (c : α)
    (entries : List (SessionId × α)) : ((id, c) :: entries).lookup i = entries.lookup i := by
  rw [List.lookup_cons, beq_false_of_ne h.symm]

theorem lookup_filter_ne {α : Type} (id i : SessionId) (entries : List (SessionId × α)) :
    (entries.filter (·.1 != id)).lookup i = if id = i then none else entries.lookup i := by
  induction entries with
  | nil => simp
  | cons e entries ih =>
    obtain ⟨j, c⟩ := e
    by_cases hj : j = id
    · subst hj
      rw [List.filter_cons_of_neg (by simp), ih]
      by_cases hi : j = i
      · rw [if_pos hi, if_pos hi]
      · rw [if_neg hi, if_neg hi, lookup_cons_ne hi]
    · rw [List.filter_cons_of_pos (by simpa using hj)]
      by_cases hi : j = i
      · subst hi
        rw [List.lookup_cons_self, if_neg (Ne.symm hj), List.lookup_cons_self]
      · rw [lookup_cons_ne hi, lookup_cons_ne hi, ih]

theorem find?_isSome_iff : (m.find? id).isSome ↔ id ∈ m.ids := by
  simp [find?, ids, List.lookup_isSome_iff]

theorem open?_eq_none_iff : m.open? id cell = none ↔ m.max ≤ m.reserved := by
  simp [open?]

/-- A slot is taken and the session entered, in front of all others if its id is new. -/
theorem open?_of_new (hr : m.reserved < m.max) (hid : id ∉ m.ids) :
    m.open? id cell =
      some ⟨(id, cell) :: m.sessions, m.reserved + 1, m.max⟩ := by
  have hne : ∀ e ∈ m.sessions, (e.1 != id) = true := by
    intro e he
    rw [bne_iff_ne]
    intro h
    exact hid (List.mem_map.2 ⟨e, he, h⟩)
  simp only [open?, if_pos hr, enter]
  rw [List.filter_eq_self.2 hne]

/-- Whoever is entered is found, and everybody else as before. -/
theorem find?_of_open? {m' : Manager} (h : m.open? id cell = some m') (i : SessionId) :
    m'.find? i = if id = i then some cell else m.find? i := by
  simp only [open?] at h
  split_ifs at h
  cases h
  simp only [find?, enter]
  by_cases hi : id = i
  · subst hi
    rw [List.lookup_cons_self, if_pos rfl]
  · rw [lookup_cons_ne hi, lookup_filter_ne, if_neg hi, if_neg hi]

/-- Whoever is closed was found and is not any more, and everybody else is found as before. -/
theorem find?_of_close? {m' : Manager} (h : m.close? id = some (cell, m')) :
    m.find? id = some cell ∧ ∀ i, m'.find? i = if id = i then none else m.find? i := by
  obtain ⟨c, hc, heq⟩ := Option.map_eq_some_iff.1 h
  cases heq
  exact ⟨hc, fun i => lookup_filter_ne id i m.sessions⟩

theorem close?_eq_none_iff : m.close? id = none ↔ id ∉ m.ids := by
  rw [close?, Option.map_eq_none_iff, ← find?_isSome_iff, Option.isSome_iff_ne_none, not_not]

/-- Where each id stands once, closing takes one session and nothing else, and gives its slot
back. -/
theorem close?_spec {m' : Manager} (hm : m.ids.Nodup) (hr : 0 < m.reserved)
    (h : m.close? id = some (cell, m')) :
    m.ids.Perm (id :: m'.ids) ∧ m'.reserved + 1 = m.reserved ∧ m'.max = m.max := by
  obtain ⟨c, hc, heq⟩ := Option.map_eq_some_iff.1 h
  simp only [Prod.mk.injEq] at heq
  obtain ⟨-, rfl⟩ := heq
  have hid : id ∈ m.ids := find?_isSome_iff.1 (by rw [hc]; rfl)
  have hrest : (m.sessions.filter (·.1 != id)).map Prod.fst = m.ids.erase id := by
    rw [hm.erase_eq_filter, ids, List.filter_map]
    rfl
  refine ⟨?_, ?_, rfl⟩
  · rw [ids, ids, hrest]
    exact List.perm_cons_erase hid
  · simp only [giveBack, if_neg (Nat.ne_of_gt hr)]
    omega

end Manager

end Teller
