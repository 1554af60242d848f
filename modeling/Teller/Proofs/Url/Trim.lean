import Teller.Proofs.Url.Web

/-!
# Texts of URLs without the blanks around them

A text is read as a URL without the control characters and spaces around it. Trimming it first takes
away other blanks too. On the web that makes no difference to where the URL leads: what can be read
with blanks and control characters behind it can be read without them, and differs in path and
fragment at most.

* `trimWhere_trimWhere`, `cleaned_trim`: what trimming takes away from a text cleaned anyway.
* `splitScheme?_of_append`, `Parts.front_append`: what becomes of it while a URL is read.
* `ofText_trim_read`, `ofText_trim`: the URL keeps its scheme and its authority.
-/

namespace Teller.Url

open Text (IsMargin isBlank)

/-! ## Whole texts -/

variable {cs t : List Char}

theorem splitMark_append {mark : Char} (ht : mark ∉ t) (cs : List Char) :
    splitMark mark (cs ++ t) =
      match splitMark mark cs with
      | (front, none) => (front ++ t, none)
      | (front, some behind) => (front, some (behind ++ t)) := by
  induction cs with
  | nil =>
    show splitMark mark t = (t, none)
    induction t with
    | nil => rfl
    | cons c t ih =>
      rw [List.mem_cons, not_or] at ht
      rw [splitMark, if_neg (Ne.symm ht.1), ih ht.2]
  | cons c cs ih =>
    rw [List.cons_append, splitMark, splitMark]
    split
    · rfl
    · rw [ih]
      rcases splitMark mark cs with ⟨front, _ | behind⟩ <;> rfl

/-- Blanks and control characters are no marks. -/
theorem partMarks_margin (ht : ∀ z ∈ t, IsMargin z) : partMarks t = [] := by
  refine partMarks_eq_nil fun z hz => ?_
  have hmarks := (plain_of_margin (ht z hz)).2.2.2
  constructor
  all_goals
    rintro rfl
    exact hmarks (by decide)

section

variable (ht : ∀ z ∈ t, IsMargin z)
include ht

theorem Parts.query_append : (Parts.of (cs ++ t)).query = none ↔ (Parts.of cs).query = none := by
  rw [← Option.not_isSome_iff_eq_none, ← Option.not_isSome_iff_eq_none, query_isSome_iff,
    query_isSome_iff, partMarks_append, partMarks_margin ht, List.append_nil]

theorem hash_mem_append : '#' ∈ cs ++ t ↔ '#' ∈ cs := by
  rw [← hash_mem_partMarks (cs ++ t), ← hash_mem_partMarks cs, partMarks_append,
    partMarks_margin ht, List.append_nil]

/-- Blanks and control characters behind a text without query end up in its fragment, or behind
its front. -/
theorem Parts.front_append (hq : (Parts.of cs).query = none) :
    (Parts.of (cs ++ t)).front = (Parts.of cs).front ++ if '#' ∈ cs then [] else t := by
  have hhash : '#' ∉ t := fun h => (plain_of_margin (ht _ h)).2.2.2 (by decide)
  have hquery : '?' ∉ t := fun h => (plain_of_margin (ht _ h)).2.2.2 (by decide)
  have hmem : (splitMark '#' cs).2 = none ↔ '#' ∉ cs := splitMark_eq_none_iff
  unfold Parts.of at hq ⊢
  rw [splitMark_append hhash]
  generalize splitMark '#' cs = p at hq hmem ⊢
  rcases p with ⟨front, _ | fragment⟩
  · rw [if_neg (hmem.1 rfl)]
    dsimp only at hq ⊢
    rw [splitMark_append hquery]
    generalize splitMark '?' front = p at hq ⊢
    rcases p with ⟨front, _ | query⟩
    · rfl
    · cases hq
  · rw [if_pos (by by_contra h; cases hmem.2 h), List.append_nil]

theorem Parts.goesOn_append (hq : (Parts.of cs).query = none) :
    (Parts.of (cs ++ t)).goesOn = (Parts.of cs).goesOn := by
  unfold Parts.goesOn
  rw [hq, (Parts.query_append ht).2 hq, Option.isSome_none, Bool.false_or, Bool.false_or,
    Bool.eq_iff_iff, ← not_iff_not, Option.not_isSome_iff_eq_none, Option.not_isSome_iff_eq_none,
    fragment_eq_none_iff, fragment_eq_none_iff, hash_mem_append ht]

/-- A scheme ends in front of the blanks and control characters behind a text. -/
theorem splitScheme?_of_append {scheme : String} {behind : List Char}
    (h : splitScheme? (cs ++ t) = some (scheme, behind)) :
    ∃ behind', behind = behind' ++ t ∧ splitScheme? cs = some (scheme, behind') := by
  obtain ⟨c, area, heq, hc, harea, hscheme⟩ := splitScheme?_eq_some_iff.1 h
  have heq' : cs ++ t = (c :: area ++ [':']) ++ behind := by
    rw [heq]
    simp
  -- The colon is none of them.
  rcases List.append_eq_append_iff.1 heq' with ⟨front, hfront, rfl⟩ | ⟨behind', rfl, rfl⟩
  · rcases List.eq_nil_or_concat front with rfl | ⟨front, z, rfl⟩
    · rw [List.append_nil] at hfront
      refine ⟨[], rfl, splitScheme?_eq_some_iff.2 ⟨c, area, ?_, hc, harea, hscheme⟩⟩
      exact hfront.symm
    · rw [List.concat_eq_append, ← List.append_assoc] at hfront
      cases (List.append_inj' hfront rfl).2
      exact absurd (by decide) (plain_of_margin (ht ':' (by simp))).2.2.2
  · refine ⟨behind', rfl, splitScheme?_eq_some_iff.2 ⟨c, area, ?_, hc, harea, hscheme⟩⟩
    simp

end

/-! ## Trimming -/

/-- What two ways of cutting off the front of a list leave differs in what one of them cuts off. -/
theorem dropWhile_dropWhile {α : Type} (p q : α → Bool) (l : List α) :
    ∃ t, (∀ x ∈ t, p x ∨ q x) ∧ l.dropWhile q = t ++ (l.dropWhile p).dropWhile q := by
  induction l with
  | nil => exact ⟨[], fun x hx => (nomatch hx), rfl⟩
  | cons x l ih =>
    by_cases hp : p x
    · rw [List.dropWhile_cons_of_pos hp]
      by_cases hq : q x
      · rwa [List.dropWhile_cons_of_pos hq]
      · obtain ⟨t, ht, h⟩ := ih
        rw [List.dropWhile_cons_of_neg hq]
        refine ⟨x :: (l.takeWhile q ++ t), ?_, ?_⟩
        · rw [List.forall_mem_cons, List.forall_mem_append]
          exact ⟨Or.inl hp, fun y hy => Or.inr (List.mem_takeWhile_imp hy), ht⟩
        · rw [List.cons_append, List.append_assoc, ← h, List.takeWhile_append_dropWhile]
    · rw [List.dropWhile_cons_of_neg hp]
      exact ⟨[], fun x hx => (nomatch hx), rfl⟩

/-- Nothing in front of an element that stays is cut off from behind. -/
theorem reverse_dropWhile_append {α : Type} {p : α → Bool} {x : α} (hx : ¬ p x) (front : List α)
    (l : List α) :
    ∃ l', ((x :: l).reverse.dropWhile p).reverse = x :: l' ∧
      ((front ++ x :: l).reverse.dropWhile p).reverse = front ++ x :: l' := by
  have hcons : (x :: l).reverse.dropWhile p = l.reverse.dropWhile p ++ [x] := by
    rw [List.reverse_cons, List.dropWhile_append]
    split
    · rename_i hnil
      rw [List.isEmpty_iff.1 hnil, List.dropWhile_cons_of_neg hx]
      rfl
    · rfl
  refine ⟨(l.reverse.dropWhile p).reverse, ?_, ?_⟩
  · rw [hcons, List.reverse_append]
    rfl
  · rw [List.reverse_append, List.dropWhile_append, if_neg (by rw [hcons]; simp), hcons]
    simp

/-- What trimming leaves begins with the first element that it does not take away. -/
theorem trimWhere_eq_cons {q : Char → Bool} {cs l : List Char} {c : Char}
    (h : Text.trimWhere q cs = c :: l) : ¬ q c ∧ ∃ r, cs.dropWhile q = c :: r := by
  unfold Text.trimWhere at h
  have hhead := List.head?_dropWhile_not q cs
  cases hd : cs.dropWhile q with
  | nil =>
    rw [hd] at h
    cases h
  | cons c' r =>
    rw [hd] at h hhead
    have hq : ¬ q c' = true := by simpa using hhead
    obtain ⟨_, hl, -⟩ := reverse_dropWhile_append hq [] r
    rw [hl] at h
    cases h
    exact ⟨hq, r, rfl⟩

/-- **Trimming twice** takes away more at the end only, if what stays begins with an element that
neither way of trimming takes away. -/
theorem trimWhere_trimWhere {p q : Char → Bool} {cs l : List Char} {c : Char} (hp : ¬ p c)
    (h : Text.trimWhere q cs = c :: l) :
    ∃ l' t, (∀ z ∈ t, p z ∨ q z) ∧ l = l' ++ t ∧
      Text.trimWhere q (Text.trimWhere p cs) = c :: l' := by
  obtain ⟨hq, r, hd⟩ := trimWhere_eq_cons h
  unfold Text.trimWhere at h ⊢
  rw [hd] at h
  -- In front, both ways of trimming come to the same.
  have hfront : (cs.dropWhile p).dropWhile q = c :: r := by
    obtain ⟨t, ht, heq⟩ := dropWhile_dropWhile p q cs
    rw [hd] at heq
    cases t with
    | nil => exact heq.symm
    | cons z t =>
      cases heq
      rcases ht c List.mem_cons_self with h | h
      · exact absurd h hp
      · exact absurd h hq
  have hpre := List.takeWhile_append_dropWhile (p := q) (l := cs.dropWhile p)
  have hprefix : ∀ z ∈ (cs.dropWhile p).takeWhile q, q z = true :=
    fun z => List.mem_takeWhile_imp
  rw [hfront] at hpre
  rw [← hpre]
  generalize (cs.dropWhile p).takeWhile q = pre at hprefix
  obtain ⟨r', hr, hr'⟩ := reverse_dropWhile_append hp pre r
  obtain ⟨l', hl', -⟩ := reverse_dropWhile_append hq [] r'
  rw [hr', List.dropWhile_append_of_pos hprefix, List.dropWhile_cons_of_neg hq, hl']
  obtain ⟨t, ht, heq⟩ := dropWhile_dropWhile p q (c :: r).reverse
  refine ⟨l', t.reverse, fun z hz => ht z (List.mem_reverse.1 hz), ?_, rfl⟩
  have hends := congrArg List.reverse heq
  rw [h, List.reverse_append, ← List.reverse_reverse ((c :: r).reverse.dropWhile p), hr, hl']
    at hends
  exact (List.cons.inj hends).2

/-- **Trimming takes away nothing but blanks and control characters at the end** of a text that is
cleaned anyway, if it does not begin with them. -/
theorem cleaned_trim {s : String} {c : Char} {rest : List Char} (hc : ¬ IsMargin c)
    (h : cleaned s.toList = c :: rest) :
    ∃ rest' t, (∀ z ∈ t, IsMargin z) ∧ rest = rest' ++ t ∧
      cleaned (Text.trim s).toList = c :: rest' := by
  have hcleaned (cs : List Char) :
      cleaned cs = (Text.trimWhere (fun c => c.toNat ≤ 0x20) cs).filter (!isSkipped ·) := rfl
  rw [hcleaned] at h ⊢
  rw [Text.trim, String.toList_ofList]
  generalize hl : Text.trimWhere (fun c => c.toNat ≤ 0x20) s.toList = l at h
  cases l with
  | nil => cases h
  | cons c' l =>
    -- What is left out within a text is a control character.
    have hkept : (!isSkipped c') = true := by
      have hc' := (trimWhere_eq_cons hl).1
      simp only [isSkipped, Bool.not_eq_true', Bool.or_eq_false_iff, beq_eq_false_iff_ne]
      refine ⟨⟨?_, ?_⟩, ?_⟩ <;> rintro rfl <;> exact hc' (by decide)
    rw [List.filter_cons, if_pos hkept] at h
    cases h
    obtain ⟨l', t, ht, rfl, htrim⟩ := trimWhere_trimWhere (fun h => hc (Or.inl h)) hl
    refine ⟨l'.filter (!isSkipped ·), t.filter (!isSkipped ·), fun z hz => ?_,
      List.filter_append l' t, ?_⟩
    · exact (ht z (List.mem_filter.1 hz).1).imp_right of_decide_eq_true
    · rw [htrim, List.filter_cons, if_pos hkept]

/-! ## URLs -/

theorem dropWhile_isSlash_append {t : List Char} (ht : ∀ z ∈ t, IsMargin z) (cs : List Char) :
    (cs ++ t).dropWhile Manner.web.isSlash = cs.dropWhile Manner.web.isSlash ++ t := by
  rw [List.dropWhile_append]
  split
  · rename_i hnil
    rw [List.isEmpty_iff.1 hnil, List.nil_append]
    cases t with
    | nil => rfl
    | cons z t =>
      refine List.dropWhile_cons_of_neg (Bool.eq_false_iff.1 ?_)
      exact (ht z List.mem_cons_self).of_points (by decide +kernel)
  · rfl

/-- A URL does not begin with a blank or a control character. -/
theorem not_isMargin_of_splitScheme? {c : Char} {p : String × List Char}
    (h : splitScheme? (c :: cs) = some p) : ¬ IsMargin c := by
  intro hc
  have hletter := isAlpha_of_splitScheme? h
  have hnone : c.isAlpha = false := hc.of_points (by decide +kernel)
  rw [hletter] at hnone
  cases hnone

variable {s : String} {u v : Url}

/-- **Trimming a text that is read as a URL** takes away nothing in front of it. -/
theorem cleaned_trim_of_splitScheme? {p : String × List Char}
    (h : splitScheme? (cleaned s.toList) = some p) :
    ∃ t, (∀ z ∈ t, IsMargin z) ∧ cleaned s.toList = cleaned (Text.trim s).toList ++ t := by
  cases hcs : cleaned s.toList with
  | nil =>
    rw [hcs] at h
    cases h
  | cons c cs =>
    rw [hcs] at h
    obtain ⟨cs', t, ht, rfl, htrim⟩ := cleaned_trim (not_isMargin_of_splitScheme? h) hcs
    exact ⟨t, ht, by rw [htrim]; rfl⟩

/-- **A base on the web can be read without the blanks around it.** It keeps its scheme and its
authority; what trimming takes away stands behind its path, unless a fragment takes it. -/
theorem ofText_trim_read (h : ofText s = .ok u) (hweb : u.manner = .web) (hq : u.query = none) :
    ∃ v rest t, ofText (Text.trim s) = .ok v ∧ v.scheme = u.scheme ∧ v.authority = u.authority ∧
      v.path = .read .web rest ∧ u.path = .read .web (rest ++ t) ∧ (∀ z ∈ t, IsMargin z) ∧
      (t = [] → cleaned (Text.trim s).toList = cleaned s.toList ∨ '#' ∈ s.toList) := by
  obtain ⟨scheme, behind, a, rest, hscheme, hm, hread, rfl⟩ := ofText_web_iff.1 ⟨h, hweb⟩
  obtain ⟨t, ht, hcleaned⟩ := cleaned_trim_of_splitScheme? hscheme
  have hhash : '#' ∈ s.toList ↔ '#' ∈ behind := by
    rw [← hash_mem_partMarks behind, partMarks_behind hscheme, partMarks_cleaned,
      hash_mem_partMarks]
  rw [hcleaned] at hscheme
  obtain ⟨behind, rfl, hscheme'⟩ := splitScheme?_of_append ht hscheme
  have hnone : (Parts.of behind).query = none :=
    (Parts.query_append ht).1 (Option.map_eq_none_iff.1 hq)
  generalize htail : (if '#' ∈ behind then [] else t) = tail
  have htail' : ∀ z ∈ tail, IsMargin z := by
    rw [← htail]
    split
    · exact fun z hz => nomatch hz
    · exact ht
  rw [Parts.goesOn_append ht hnone, Parts.front_append ht hnone, htail,
    dropWhile_isSlash_append htail'] at hread
  obtain ⟨rest, rfl, hread'⟩ := readAuthority_append hm htail' hread
  obtain ⟨hv, -⟩ := ofText_web_iff.2 ⟨scheme, behind, a, rest, hscheme', hm, hread', rfl⟩
  refine ⟨_, rest, tail, hv, rfl, rfl, rfl, rfl, htail', fun hnil => ?_⟩
  rw [hhash, hash_mem_append ht]
  by_cases hmem : '#' ∈ behind
  · exact Or.inr hmem
  · rw [if_neg hmem, hnil] at htail
    rw [hcleaned, htail, List.append_nil]
    exact Or.inl rfl

theorem ofText_trim (h : ofText s = .ok u) (hweb : u.manner = .web) (hq : u.query = none) :
    ∃ v, ofText (Text.trim s) = .ok v ∧ v.scheme = u.scheme ∧ v.authority = u.authority ∧
      v.isFlat = false := by
  obtain ⟨v, _, _, hv, hscheme, hauthority, -⟩ := ofText_trim_read h hweb hq
  refine ⟨v, hv, hscheme, hauthority, isFlat_of_web hv ?_⟩
  unfold manner
  rw [hscheme]
  exact hweb

end Teller.Url
