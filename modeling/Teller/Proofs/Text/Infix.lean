import Mathlib.Data.List.Infix
import Teller.Proofs.Text.Trim

/-!
# Parts of texts

* `forall_mem_intercalate`: what parts are made of that marks divide; `of_mem_splitOnP`: what
  they hold.
* `infix_append_cons_iff`: a word gets over no character that is not its own.
* `infix_iff_of_mark`: a word stands in front of a mark or behind it.
* `infix_trimWhere_iff`: trimming takes no word away.
-/

namespace Teller.Text

/-- What parts and marks between them are made of. -/
theorem forall_mem_intercalate {P : Char → Prop} {sep : List Char} (hs : ∀ c ∈ sep, P c)
    {ls : List (List Char)} (h : ∀ l ∈ ls, ∀ c ∈ l, P c) : ∀ c ∈ sep.intercalate ls, P c := by
  induction ls with
  | nil => exact fun c hc => nomatch hc
  | cons l ls ih =>
    rw [List.forall_mem_cons] at h
    cases ls with
    | nil =>
      rw [List.intercalate_singleton]
      exact h.1
    | cons l' ls =>
      rw [List.intercalate_cons_cons, List.forall_mem_append, List.forall_mem_append]
      exact ⟨⟨h.1, hs⟩, ih h.2⟩

/-- A part of a text that is divided holds characters of the text, and none that divides it. -/
theorem of_mem_splitOnP {p : Char → Bool} {text part : List Char} (h : part ∈ text.splitOnP p) :
    ∀ c ∈ part, p c = false ∧ c ∈ text := by
  induction text generalizing part with
  | nil =>
    rw [List.splitOnP_nil, List.mem_singleton] at h
    rw [h]
    exact fun c hc => absurd hc List.not_mem_nil
  | cons c text ih =>
    have htail : ∀ s ∈ text.splitOnP p, ∀ d ∈ s, p d = false ∧ d ∈ c :: text :=
      fun s hs d hd => (ih hs d hd).imp_right (List.mem_cons_of_mem c)
    rw [List.splitOnP_cons_eq_if_modifyHead] at h
    split at h
    · rcases List.mem_cons.1 h with rfl | h
      · exact fun c hc => absurd hc List.not_mem_nil
      · exact htail part h
    · rename_i hc
      obtain ⟨first, rest, hsplit⟩ := List.exists_cons_of_ne_nil (List.splitOnP_ne_nil p text)
      rw [hsplit] at h htail
      rcases List.mem_cons.1 h with rfl | h
      · rw [List.forall_mem_cons]
        exact ⟨⟨Bool.eq_false_iff.2 hc, List.mem_cons_self⟩, htail first List.mem_cons_self⟩
      · exact htail part (List.mem_cons_of_mem first h)

variable {word front back before after cs : List Char} {c : Char}

/-- **A word gets over no character** that is not its own. -/
theorem infix_append_cons_iff (hc : c ∉ word) :
    word <:+: front ++ c :: back ↔ word <:+: front ∨ word <:+: back := by
  constructor
  · rintro ⟨s, t, h⟩
    rcases List.append_eq_append_iff.1 h with ⟨a, rfl, -⟩ | ⟨a, hs, ha⟩
    · exact .inl ⟨s, a, rfl⟩
    cases a with
    | nil => exact .inl ⟨s, [], by simpa using hs⟩
    | cons d a =>
      obtain ⟨rfl, rfl⟩ := List.cons.inj ha
      rcases List.append_eq_append_iff.1 hs with ⟨b, -, rfl⟩ | ⟨b, -, hb⟩
      · exact absurd (by simp) hc
      cases b with
      | nil =>
        obtain rfl : c :: a = word := hb
        exact absurd List.mem_cons_self hc
      | cons d b =>
        obtain ⟨-, rfl⟩ := List.cons.inj hb
        exact .inr ⟨b, t, rfl⟩
  · rintro (h | h)
    · exact h.trans (List.prefix_append front _).isInfix
    · exact h.trans ((List.suffix_cons c back).trans (List.suffix_append front _)).isInfix

/-- A word stands in front of a mark or behind it. -/
theorem infix_iff_of_mark (hc : c ∉ word) : word <:+: cs ↔
    word <:+: cs.takeWhile (· != c) ∨ word <:+: cs.dropWhile (· != c) := by
  conv_lhs => rw [← List.takeWhile_append_dropWhile (p := (· != c)) (l := cs)]
  cases hrest : cs.dropWhile (· != c) with
  | nil =>
    rw [List.append_nil, iff_self_or]
    exact fun h => h.trans List.nil_infix
  | cons d back =>
    have hd : d = c := by
      have := List.head?_dropWhile_not (· != c) cs
      rw [hrest] at this
      simpa using this
    subst hd
    have hmark : word <:+: d :: back ↔ word <:+: back := by
      rw [← List.nil_append (d :: back), infix_append_cons_iff hc, or_iff_right_iff_imp]
      exact fun h => h.trans List.nil_infix
    rw [infix_append_cons_iff hc, hmark]

/-- What has no character of a word is not part of it. -/
theorem infix_append_iff (hne : word ≠ []) (h : ∀ d ∈ before, d ∉ word) :
    word <:+: before ++ cs ↔ word <:+: cs := by
  induction before with
  | nil => rfl
  | cons d before ih =>
    rw [List.forall_mem_cons] at h
    rw [← List.nil_append (d :: before), List.append_assoc, List.cons_append,
      infix_append_cons_iff h.1, ih h.2, or_iff_right_iff_imp, List.infix_nil]
    exact fun hnil => absurd hnil hne

/-- **Trimming takes no word away.** -/
theorem infix_trimWhere_iff {drop : Char → Bool} (hne : word ≠ [])
    (h : ∀ d ∈ word, drop d = false) : word <:+: trimWhere drop cs ↔ word <:+: cs := by
  obtain ⟨before, after, hcs, hbefore, hafter⟩ := exists_append_trimWhere drop cs
  have hends {ends : List Char} (hends : ∀ d ∈ ends, drop d = true) : ∀ d ∈ ends, d ∉ word := by
    intro d hd hword
    have hkept := h d hword
    rw [hends d hd] at hkept
    cases hkept
  generalize trimWhere drop cs = core at hcs
  subst hcs
  -- What follows comes first in the reversed text.
  have hback :
      word.reverse <:+: after.reverse ++ core.reverse ↔ word.reverse <:+: core.reverse := by
    refine infix_append_iff (mt List.reverse_eq_nil_iff.1 hne) fun d hd => ?_
    rw [List.mem_reverse] at hd ⊢
    exact hends hafter d hd
  rw [← List.reverse_append, List.reverse_infix, List.reverse_infix] at hback
  rw [List.append_assoc, infix_append_iff hne (hends hbefore), hback]

end Teller.Text
