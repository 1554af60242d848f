import Mathlib.Data.List.Basic
import Teller.Domain.Ascii
import Teller.Proofs.Text.Utf8
import Teller.Text.Blank

/-!
# No blanks in domains

A text with a blank or a control character in it is no domain, wherever the character stands: each
step from the text to its ASCII form keeps it, or refuses the text.

* `Text.IsMargin`: blanks and control characters.
* `mem_composed`, `Punycode.mem_decode?`: composing and decoding keep them.
* `ascii?_eq_none_of_margin`: no domain has one.
-/

namespace Teller

namespace Text

/-- Blanks and control characters. -/
def IsMargin (z : Char) : Prop := isBlank z ∨ z.toNat ≤ 0x20

/-- The code points of the control characters and of all blanks. -/
def marginPoints : List Nat :=
  List.range 0x21 ++ [0x85, 0xA0, 0x1680, 0x2000, 0x2001, 0x2002, 0x2003, 0x2004, 0x2005, 0x2006,
    0x2007, 0x2008, 0x2009, 0x200A, 0x2028, 0x2029, 0x202F, 0x205F, 0x3000]

/-- What holds at each of these code points holds of all blanks and control characters. -/
@[elab_as_elim]
theorem IsMargin.of_points {P : Char → Prop} {z : Char} (hz : IsMargin z)
    (h : ∀ n ∈ marginPoints, P (Char.ofNat n)) : P z := by
  have hmem : z.toNat ∈ marginPoints := by
    unfold IsMargin at hz
    simp only [isBlank, Bool.or_eq_true, Bool.and_eq_true, decide_eq_true_eq, beq_iff_eq] at hz
    simp only [marginPoints, List.mem_append, List.mem_range, List.mem_cons, List.not_mem_nil,
      or_false]
    omega
  rw [← Char.ofNat_toNat z]
  exact h _ hmem

/-! ## Composing -/

variable {z : Char}

/-- No composite begins with a control character or a space. -/
theorem front_of_composites : ∀ p ∈ composites, 0x20 < p.front.toNat := by decide +kernel

theorem parts?_of_margin (hz : z.toNat ≤ 0x20) : parts? z = none := if_pos (by omega)

/-- A mark that joins a letter is none of ASCII, and its letter is no control character. -/
theorem whole?_parts {a b w : Char} (h : whole? a b = some w) :
    0x20 < a.toNat ∧ 0x20 < b.toNat := by
  unfold whole? at h
  split at h
  · cases h
  rename_i hb
  refine ⟨?_, by omega⟩
  split at h
  · rename_i hs
    unfold Hangul.syllable? at hs
    simp only at hs
    split at hs
    · omega
    · split at hs
      · omega
      · cases hs
  · obtain ⟨p, hp, -⟩ := Option.map_eq_some_iff.1 h
    have hfront := front_of_composites p (List.mem_of_find?_eq_some hp)
    have hab := List.find?_some hp
    simp only [Bool.and_eq_true, beq_iff_eq] at hab
    rwa [hab.1] at hfront

theorem mem_insertMark {c : Char} {ds : List Char} : z ∈ insertMark c ds ↔ z = c ∨ z ∈ ds := by
  induction ds with
  | nil => simp [insertMark]
  | cons d ds ih =>
    unfold insertMark
    split
    · rw [List.mem_cons, ih, List.mem_cons]
      exact or_left_comm
    · rw [List.mem_cons]

theorem mem_ordered {cs : List Char} : z ∈ ordered cs ↔ z ∈ cs := by
  induction cs with
  | nil => rfl
  | cons c cs ih =>
    show z ∈ (if combiningClass c = 0 then c :: ordered cs else insertMark c (ordered cs)) ↔ _
    rw [List.mem_cons, ← ih]
    split
    · rw [List.mem_cons]
    · exact mem_insertMark

theorem mem_joinTo (hz : z.toNat ≤ 0x20) {cs : List Char} {letter : Char} {held : List Char}
    (h : z = letter ∨ z ∈ held ∨ z ∈ cs) : z ∈ joinTo letter held cs := by
  induction cs generalizing letter held with
  | nil => simpa [joinTo] using h
  | cons c cs ih =>
    unfold joinTo
    dsimp only
    split
    · rename_i w hw
      -- What is joined is neither of the two.
      have hparts : whole? letter c = some w := by
        rw [Option.ite_none_right_eq_some] at hw
        exact hw.2
      obtain ⟨hl, hc⟩ := whole?_parts hparts
      refine ih (Or.inr ?_)
      rcases h with rfl | h | h
      · omega
      · exact Or.inl h
      · rcases List.mem_cons.1 h with rfl | h
        · omega
        · exact Or.inr h
    · split
      · rcases h with rfl | h | h
        · exact List.mem_append_left _ List.mem_cons_self
        · exact List.mem_append_left _ (List.mem_cons_of_mem _ (List.mem_reverse.2 h))
        · refine List.mem_append_right _ (ih ?_)
          rcases List.mem_cons.1 h with rfl | h
          · exact Or.inl rfl
          · exact Or.inr (Or.inr h)
      · refine ih ?_
        rcases h with h | h | h
        · exact Or.inl h
        · exact Or.inr (Or.inl (List.mem_cons_of_mem _ h))
        · rcases List.mem_cons.1 h with rfl | h
          · exact Or.inr (Or.inl List.mem_cons_self)
          · exact Or.inr (Or.inr h)

theorem mem_joined (hz : z.toNat ≤ 0x20) {cs : List Char} (h : z ∈ cs) : z ∈ joined cs := by
  induction cs with
  | nil => exact h
  | cons c cs ih =>
    unfold joined
    split
    · refine mem_joinTo hz ?_
      rcases List.mem_cons.1 h with h | h
      · exact Or.inl h
      · exact Or.inr (Or.inr h)
    · rcases List.mem_cons.1 h with rfl | h
      · exact List.mem_cons_self
      · exact List.mem_cons_of_mem _ (ih h)

/-- **Composing keeps** control characters and spaces. -/
theorem mem_composed (hz : z.toNat ≤ 0x20) {cs : List Char} (h : z ∈ cs) : z ∈ composed cs := by
  refine mem_joined hz (mem_ordered.2 (List.mem_flatMap.2 ⟨z, h, ?_⟩))
  unfold taken
  rw [parts?_of_margin hz]
  exact List.mem_singleton.2 rfl

end Text

namespace Domain

open Text (IsMargin marginPoints composed)

variable {z : Char}

/-! ## Decoding -/

namespace Punycode

theorem value?_of_margin (hz : IsMargin z) : value? z = none :=
  hz.of_points (by decide +kernel)

/-- A digit adds to the label, if it changes it at all. -/
theorem Decoder.subset_step {s s' : Decoder} {c : Char} (h : s.step c = some s') :
    s.label ⊆ s'.label := by
  unfold Decoder.step at h
  obtain ⟨d, -, h⟩ := Option.bind_eq_some_iff.1 h
  dsimp only at h
  split at h
  · cases h
    exact List.Subset.refl _
  · split at h
    · cases h
    · cases h
      intro c hc
      rw [← List.take_append_drop ((s.sum + d * s.weight) % (s.label.length + 1)) s.label,
        List.mem_append] at hc
      refine List.mem_append.2 (hc.imp_right fun hc => List.mem_cons_of_mem _ hc)

/-- Numbers have digits only, and what is there stays. -/
theorem Decoder.mem_run (hz : z.toNat ≤ 0x20) {cs label : List Char} {s : Decoder}
    (h : s.run cs = some label) (hmem : z ∈ s.label ∨ z ∈ cs) : z ∈ label := by
  induction cs generalizing s with
  | nil =>
    unfold Decoder.run at h
    split at h
    · cases h
      exact hmem.resolve_right List.not_mem_nil
    · cases h
  | cons c cs ih =>
    obtain ⟨s', hs, h⟩ := Option.bind_eq_some_iff.1 h
    refine ih h ?_
    rcases hmem with hmem | hmem
    · exact Or.inl (s.subset_step hs hmem)
    rcases List.mem_cons.1 hmem with rfl | hmem
    · rw [Decoder.step, value?_of_margin (Or.inr hz)] at hs
      cases hs
    · exact Or.inr hmem

/-- Only a hyphen gets lost where the numbers are split off. -/
theorem mem_splitPlain (hz : z ≠ '-') {cs : List Char} (h : z ∈ cs) :
    z ∈ (splitPlain cs).1 ∨ z ∈ (splitPlain cs).2 := by
  unfold splitPlain
  dsimp only
  generalize hnumbers : (cs.reverse.takeWhile (· ≠ '-')).reverse = numbers
  split
  · rename_i hfront
    -- The characters stand in front of the last hyphen, or behind it.
    have hcs : cs = (cs.reverse.dropWhile (· ≠ '-')).reverse ++ numbers := by
      rw [← hnumbers, ← List.reverse_append, List.takeWhile_append_dropWhile, List.reverse_reverse]
    cases hd : cs.reverse.dropWhile (· ≠ '-') with
    | nil =>
      rw [hd] at hcs
      rw [hcs] at h
      exact Or.inr h
    | cons c front =>
      have hc : c = '-' := by
        have := List.head?_dropWhile_not (· ≠ '-') cs.reverse
        rw [hd] at this
        simpa using this
      rw [hd, hc, List.reverse_cons] at hcs
      rw [hcs] at h ⊢
      simp only [List.mem_append, List.mem_reverse, List.mem_singleton] at h
      rcases h with (h | h) | h
      · left
        have hlength : (front.reverse ++ ['-'] ++ numbers).length - numbers.length - 1 =
            front.reverse.length := by
          simp only [List.length_append, List.length_singleton]
          omega
        rw [hlength, List.append_assoc, List.take_left]
        exact List.mem_reverse.2 h
      · exact absurd h hz
      · exact Or.inr h
  · exact Or.inr h

/-- **Decoding keeps** control characters and spaces. -/
theorem mem_decode? (hz : z.toNat ≤ 0x20) {cs label : List Char} (h : decode? cs = some label)
    (hmem : z ∈ cs) : z ∈ label := by
  have hne : z ≠ '-' := by
    rintro rfl
    exact absurd hz (by decide)
  exact Decoder.mem_run hz h (mem_splitPlain hne hmem)

end Punycode

/-! ## The way to ASCII -/

/-- A label keeps them, or is none. -/
theorem mem_letters? (hz : z.toNat ≤ 0x20) {label cs : List Char} (h : letters? label = some cs)
    (hmem : z ∈ label) : z ∈ cs := by
  unfold letters? at h
  split at h
  · rename_i hmark
    obtain ⟨rest, rfl⟩ := List.isPrefixOf_iff_prefix.1 hmark
    rw [List.drop_left] at h
    dsimp only at h
    split at h
    · cases h
    obtain ⟨decoded, hdecoded, h⟩ := Option.bind_eq_some_iff.1 h
    split at h
    · cases h
    cases h
    refine Punycode.mem_decode? hz hdecoded ((List.mem_append.1 hmem).resolve_left fun hmark => ?_)
    simp only [mark, List.mem_cons, List.not_mem_nil, or_false] at hmark
    rcases hmark with rfl | rfl | rfl | rfl <;> exact absurd hz (by decide)
  · cases h
    exact hmem

/-- Blanks and control characters become control characters or spaces, or are in no domain. -/
theorem form?_of_margin (hz : IsMargin z) : ∀ form ∈ form? z, ∃ w ∈ form, w.toNat ≤ 0x20 := by
  have hpoints : ∀ n ∈ marginPoints,
      (form? (Char.ofNat n)).all (·.any fun w => w.toNat ≤ 0x20) = true := by decide +kernel
  intro form hform
  have h : (form? z).all (·.any fun w => w.toNat ≤ 0x20) = true := hz.of_points hpoints
  rw [Option.mem_def.1 hform] at h
  simpa using h

theorem mem_mapped? (hz : IsMargin z) {cs mapped : List Char} (h : mapped? cs = some mapped)
    (hmem : z ∈ cs) : ∃ w ∈ mapped, w.toNat ≤ 0x20 := by
  obtain ⟨forms, hforms, rfl⟩ := Option.map_eq_some_iff.1 h
  obtain ⟨form, hform, hz'⟩ := Text.exists_of_mapM hforms hmem
  obtain ⟨w, hw, hsmall⟩ := form?_of_margin hz form hz'
  exact ⟨w, List.mem_flatten.2 ⟨form, hform, hw⟩, hsmall⟩

/-- Whatever stands between other marks stands in one of the parts. -/
theorem mem_splitOn {sep : Char} (hz : z ≠ sep) {cs : List Char} (h : z ∈ cs) :
    ∃ part ∈ cs.splitOn sep, z ∈ part := by
  have hjoin : [sep].intercalate (cs.splitOn sep) = cs := List.intercalate_splitOn sep
  rw [← hjoin] at h
  generalize cs.splitOn sep = parts at h ⊢
  induction parts with
  | nil => cases h
  | cons part parts ih =>
    cases parts with
    | nil =>
      rw [List.intercalate_singleton] at h
      exact ⟨part, List.mem_cons_self, h⟩
    | cons next parts =>
      rw [List.intercalate_cons_cons, List.mem_append, List.mem_append, List.mem_singleton] at h
      rcases h with (h | h) | h
      · exact ⟨part, List.mem_cons_self, h⟩
      · exact absurd h hz
      · obtain ⟨other, hother, h⟩ := ih h
        exact ⟨other, List.mem_cons_of_mem part hother, h⟩

/-- **No domain has blanks** or control characters. -/
theorem ascii?_eq_none_of_margin (hz : IsMargin z) {cs : List Char} (hmem : z ∈ cs) :
    ascii? cs = none := by
  rw [Option.eq_none_iff_forall_ne_some]
  intro domain h
  obtain ⟨mapped, hmapped, h⟩ := Option.bind_eq_some_iff.1 h
  obtain ⟨labels, hlabels, h⟩ := Option.bind_eq_some_iff.1 h
  obtain ⟨w, hw, hsmall⟩ := mem_mapped? hz hmapped hmem
  have hne : w ≠ '.' := by
    rintro rfl
    exact absurd hsmall (by decide)
  have hcomposed : w ∈ if mapped.all isAscii then mapped else composed mapped := by
    split
    · exact hw
    · exact Text.mem_composed hsmall hw
  obtain ⟨part, hpart, hw⟩ := mem_splitOn hne hcomposed
  obtain ⟨label, hlabel, hpart⟩ := Text.exists_of_mapM hlabels hpart
  have hforbidden : labels.any (·.any isForbidden) = true :=
    List.any_eq_true.2 ⟨label, hlabel, List.any_eq_true.2
      ⟨w, mem_letters? hsmall hpart hw, by simp [isForbidden, hsmall]⟩⟩
  rw [if_pos (Or.inl hforbidden)] at h
  cases h

end Domain

end Teller
