import Mathlib.Tactic.IntervalCases
import Teller.Proofs.Text.Utf8

/-!
# Texts and their octets

Every text is read back from its octets.

* `Utf8.next_encodeChar`: a character is read from its octets, whatever stands behind them.
* `Utf8.runs_encode`, `Utf8.decode?_encode`: so is a whole text.
-/

namespace Teller.Text.Utf8

theorem toNat_octet {n : Nat} (h : n < 256) : (UInt8.ofNat n).toNat = n := by
  rw [UInt8.toNat_ofNat', Nat.mod_eq_of_lt h]

/-- An octet that is owed is taken. -/
theorem follow_succ {n b acc : Nat} {low high : UInt8} (hlow : low.toNat ≤ b + 128)
    (hhigh : b + 128 ≤ high.toNat) (bs : List UInt8) :
    follow (n + 1) low high acc (UInt8.ofNat (b + 128) :: bs) =
      follow n 0x80 0xBF (acc * 64 + b) bs := by
  have hb : (UInt8.ofNat (b + 128)).toNat = b + 128 :=
    toNat_octet (Nat.lt_of_le_of_lt hhigh high.toNat_lt)
  have hgoes : (low ≤ UInt8.ofNat (b + 128) && UInt8.ofNat (b + 128) ≤ high) = true := by
    rw [Bool.and_eq_true, decide_eq_true_eq, decide_eq_true_eq, UInt8.le_iff_toNat_le,
      UInt8.le_iff_toNat_le, hb]
    exact ⟨hlow, hhigh⟩
  rw [follow, if_pos hgoes, hb, Nat.add_sub_cancel]

/-- Behind its first octet, a character goes on as that announces. -/
theorem next_of_lead {b : UInt8} {l : Lead} (hl : Lead.of? b = some l) (bs : List UInt8) :
    next b bs = follow l.owed l.low l.high l.bits bs := by
  have hnot : ¬ b < 0x80 := by
    intro hb
    have hlt : b.toNat < 0x80 := hb
    simp [Lead.of?, show ¬ 0xC2 ≤ b.toNat by omega, show b.toNat ≠ 0xE0 by omega,
      show b.toNat ≠ 0xED by omega, show ¬ 0xE1 ≤ b.toNat by omega, show b.toNat ≠ 0xF0 by omega,
      show ¬ 0xF1 ≤ b.toNat by omega, show b.toNat ≠ 0xF4 by omega] at hl
  rw [next, if_neg hnot, hl]

/-- The first of two octets. -/
theorem Lead.of?_two {a : Nat} (hlow : 2 ≤ a) (hhigh : a < 32) :
    of? (UInt8.ofNat (a + 192)) = some ⟨1, 0x80, 0xBF, a⟩ := by
  interval_cases a <;> rfl

/-- The first of three octets, … -/
theorem Lead.of?_three {a b : Nat} (ha : a < 16) (hb : b < 64) (hlow : a = 0 → 32 ≤ b)
    (hhigh : a = 13 → b < 32) :
    ∃ low high, of? (UInt8.ofNat (a + 224)) = some ⟨2, low, high, a⟩ ∧ low.toNat ≤ b + 128 ∧
      b + 128 ≤ high.toNat := by
  interval_cases a
  all_goals
    refine ⟨_, _, rfl, ?_, ?_⟩
    all_goals
      simp only [UInt8.reduceToNat]
      omega

/-- … and of four. -/
theorem Lead.of?_four {a b : Nat} (ha : a < 5) (hb : b < 64) (hlow : a = 0 → 16 ≤ b)
    (hhigh : a = 4 → b < 16) :
    ∃ low high, of? (UInt8.ofNat (a + 240)) = some ⟨3, low, high, a⟩ ∧ low.toNat ≤ b + 128 ∧
      b + 128 ≤ high.toNat := by
  interval_cases a
  all_goals
    refine ⟨_, _, rfl, ?_, ?_⟩
    all_goals
      simp only [UInt8.reduceToNat]
      omega

/-- **A character is read** from the octets that it is written as, whatever stands behind them. -/
theorem next_encodeChar (c : Char) (behind : List UInt8) :
    ∃ b octets, String.utf8EncodeChar c = b :: octets ∧
      next b (octets ++ behind) = (some c, behind) := by
  have hvalid : c.val.toNat < 0xD800 ∨ (0xDFFF < c.val.toNat ∧ c.val.toNat < 0x110000) := c.valid
  have hc {n : Nat} (h : n = c.val.toNat) : Char.ofNat n = c := by
    rw [h]
    exact Char.ofNat_toNat c
  have htail (n : Nat) : (0x80 : UInt8).toNat ≤ n % 64 + 128 ∧
      n % 64 + 128 ≤ (0xBF : UInt8).toNat := by
    simp only [UInt8.reduceToNat]
    omega
  rw [String.utf8EncodeChar.eq_1]
  generalize c.val.toNat = v at hvalid hc
  split
  · have hlow : UInt8.ofNat v < 0x80 := by
      rw [UInt8.lt_iff_toNat_lt, toNat_octet (by omega)]
      exact Nat.lt_succ_of_le ‹_›
    refine ⟨_, [], rfl, ?_⟩
    rw [List.nil_append, next, if_pos hlow, toNat_octet (by omega), hc rfl]
  split
  · have hl := Lead.of?_two (a := v / 64 % 32) (by omega) (by omega)
    refine ⟨_, _, rfl, ?_⟩
    rw [next_of_lead hl, List.singleton_append, follow_succ (htail v).1 (htail v).2, follow,
      hc (by dsimp only; omega)]
  split
  · obtain ⟨low, high, hl, hlow, hhigh⟩ := Lead.of?_three (a := v / 4096 % 16) (b := v / 64 % 64)
      (by omega) (by omega) (by omega) (by omega)
    refine ⟨_, _, rfl, ?_⟩
    rw [next_of_lead hl, List.cons_append, follow_succ hlow hhigh, List.singleton_append,
      follow_succ (htail v).1 (htail v).2, follow, hc (by dsimp only; omega)]
  · obtain ⟨low, high, hl, hlow, hhigh⟩ := Lead.of?_four (a := v / 262144 % 8) (b := v / 4096 % 64)
      (by omega) (by omega) (by omega) (by omega)
    refine ⟨_, _, rfl, ?_⟩
    rw [next_of_lead hl, List.cons_append, follow_succ hlow hhigh, List.cons_append,
      follow_succ (htail (v / 64)).1 (htail (v / 64)).2, List.singleton_append,
      follow_succ (htail v).1 (htail v).2, follow, hc (by dsimp only; omega)]

/-- **A text is read back** from its octets. -/
theorem runs_encode (cs : List Char) : runs (encode cs) = cs.map some := by
  induction cs with
  | nil => simp [encode, runs]
  | cons c cs ih =>
    obtain ⟨b, octets, hc, hnext⟩ := next_encodeChar c (encode cs)
    rw [show encode (c :: cs) = String.utf8EncodeChar c ++ encode cs from rfl, hc,
      List.cons_append, runs, hnext, ih, List.map_cons]

theorem decode?_encode (cs : List Char) : decode? (encode cs) = some cs := by
  rw [decode?, runs_encode]
  induction cs with
  | nil => rfl
  | cons c cs ih => simp only [List.map_cons, List.mapM_cons, ih]; rfl

/-- Texts of the same octets are the same. -/
theorem encode_injective : Function.Injective encode := by
  intro cs ds h
  have hsame := congrArg decode? h
  rwa [decode?_encode, decode?_encode, Option.some_inj] at hsame

end Teller.Text.Utf8
