import Mathlib.Logic.Basic
import Teller.Text.Utf8

/-!
# Characters among octets

Where a character is written behind other octets it is read again, whatever they are: its first
octet never goes on with what is in front of it.

* `exists_of_mapM`, `exists_of_mem_mapM`: what becomes of a member when a whole list is read, and
  what a member of that is read from.
* `Utf8.runs_append`: octets are read apart from those behind them that start a character.
* `Utf8.mem_of_decode?`: a character whose octets are the last ones is in the text.
-/

namespace Teller.Text

/-- Where a whole list is read, each member is. -/
theorem exists_of_mapM {α β : Type} {f : α → Option β} {xs : List α} {ys : List β}
    (h : xs.mapM f = some ys) {x : α} (hx : x ∈ xs) : ∃ y ∈ ys, f x = some y := by
  induction xs generalizing ys with
  | nil => cases hx
  | cons a xs ih =>
    rw [List.mapM_cons] at h
    obtain ⟨b, hb, h⟩ := Option.bind_eq_some_iff.1 h
    obtain ⟨bs, hbs, h⟩ := Option.bind_eq_some_iff.1 h
    cases h
    rcases List.mem_cons.1 hx with rfl | hx
    · exact ⟨b, List.mem_cons_self, hb⟩
    · obtain ⟨y, hy, hxy⟩ := ih hbs hx
      exact ⟨y, List.mem_cons_of_mem b hy, hxy⟩

/-- Each member of what is read is read from some member. -/
theorem exists_of_mem_mapM {α β : Type} {f : α → Option β} {xs : List α} {ys : List β}
    (h : xs.mapM f = some ys) {y : β} (hy : y ∈ ys) : ∃ x ∈ xs, f x = some y := by
  induction xs generalizing ys with
  | nil =>
    cases h
    cases hy
  | cons a xs ih =>
    rw [List.mapM_cons] at h
    obtain ⟨b, hb, h⟩ := Option.bind_eq_some_iff.1 h
    obtain ⟨bs, hbs, h⟩ := Option.bind_eq_some_iff.1 h
    cases h
    rcases List.mem_cons.1 hy with rfl | hy
    · exact ⟨a, List.mem_cons_self, hb⟩
    · obtain ⟨x, hx, hxy⟩ := ih hbs hy
      exact ⟨x, List.mem_cons_of_mem a hx, hxy⟩

namespace Utf8

/-- An octet that goes on with a character. -/
def GoesOn (b : UInt8) : Prop := 0x80 ≤ b ∧ b ≤ 0xBF

/-- Octets that do not go on with a character in front of them. -/
def Apart (bs : List UInt8) : Prop := ∀ b ∈ bs.head?, ¬ GoesOn b

variable {bs behind : List UInt8}

/-- All octets owed go on with their character. -/
theorem Lead.goesOn {b : UInt8} {l : Lead} (h : of? b = some l) : 0x80 ≤ l.low ∧ l.high ≤ 0xBF := by
  unfold of? at h
  dsimp only at h
  repeat' split at h
  all_goals cases h
  all_goals exact ⟨UInt8.le_iff_toNat_le.2 (by simp), UInt8.le_iff_toNat_le.2 (by simp)⟩

theorem follow_append (hb : Apart behind) {n : Nat} {low high : UInt8} {acc : Nat}
    (hlow : 0x80 ≤ low) (hhigh : high ≤ 0xBF) :
    follow n low high acc (bs ++ behind) =
      ((follow n low high acc bs).1, (follow n low high acc bs).2 ++ behind) := by
  induction n generalizing low high acc bs with
  | zero => rfl
  | succ n ih =>
    cases bs with
    | nil =>
      cases behind with
      | nil => rfl
      | cons b behind =>
        have hgoes : (low ≤ b && b ≤ high) = false := by
          refine Bool.eq_false_iff.2 fun h => hb b rfl ?_
          rw [Bool.and_eq_true, decide_eq_true_eq, decide_eq_true_eq] at h
          exact ⟨UInt8.le_trans hlow h.1, UInt8.le_trans h.2 hhigh⟩
        simp only [List.nil_append, follow, hgoes]
        rfl
    | cons b bs =>
      simp only [List.cons_append, follow]
      split
      · exact ih (by decide) (by decide)
      · rfl

theorem next_append (hb : Apart behind) (b : UInt8) :
    next b (bs ++ behind) = ((next b bs).1, (next b bs).2 ++ behind) := by
  unfold next
  split
  · rfl
  · cases hl : Lead.of? b with
    | none => rfl
    | some l => exact follow_append hb (Lead.goesOn hl).1 (Lead.goesOn hl).2

/-- **Octets are read apart** from those behind them that do not go on with them. -/
theorem runs_append (hb : Apart behind) (bs : List UInt8) :
    runs (bs ++ behind) = runs bs ++ runs behind := by
  fun_induction runs bs with
  | case1 => rfl
  | case2 b bs ih =>
    rw [List.cons_append, runs, next_append hb, ih]
    rfl

/-- **A character is read** where its octets are the last ones. -/
theorem mem_of_decode? {c : Char} {front octets : List UInt8} {cs : List Char}
    (hc : runs octets = [some c]) (hapart : Apart octets)
    (h : decode? (front ++ octets) = some cs) : c ∈ cs := by
  unfold decode? at h
  rw [runs_append hapart, hc] at h
  obtain ⟨d, hd, hdc⟩ := exists_of_mapM h (List.mem_append_right _ List.mem_cons_self)
  cases hdc
  exact hd

end Utf8

end Teller.Text
