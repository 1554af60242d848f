import Teller.Proofs.Url.Trim

/-!
# Blanks that matter

Blanks and control characters behind a path are part of its last segment, where they stay as
escapes. They change every path, one that ends in dots as well: the dots behind which they stand are
dots no more.

* `splitOnP_append`: what stands behind a text stands behind its last segment.
* `escapeChar_margin`, `not_dots_of_margin`: blanks as escapes.
* `Path.read_append_eq_iff`: no path stays the same.
* `PaddedFreely`: texts around which blanks do not matter; `ofText_of_trim`: what they are read as.
-/

namespace Teller.Url

open Text (IsMargin)

/-! ## The last segment -/

section

variable {p : Char → Bool} {t : List Char}

theorem splitOnPPrepend_of_none (ht : ∀ z ∈ t, p z = false) (acc : List Char) :
    List.splitOnPPrepend p t acc = [acc.reverse ++ t] := by
  induction t generalizing acc with
  | nil => rw [List.splitOnPPrepend_nil, List.append_nil]
  | cons z t ih =>
    rw [List.forall_mem_cons] at ht
    have hz : ¬ p z = true := by
      rw [ht.1]
      exact Bool.false_ne_true
    rw [List.splitOnPPrepend_cons_eq_if, if_neg hz, ih ht.2, List.reverse_cons, List.append_assoc]
    rfl

/-- **What stands behind a text** without dividing it stands behind its last part. -/
theorem splitOnP_append (ht : ∀ z ∈ t, p z = false) (cs : List Char) :
    ∃ front last, cs.splitOnP p = front ++ [last] ∧
      (cs ++ t).splitOnP p = front ++ [last ++ t] := by
  rw [List.splitOnP_eq_splitOnPPrepend, List.splitOnP_eq_splitOnPPrepend]
  -- The part that is read at the moment is kept in reverse.
  generalize ([] : List Char) = acc
  induction cs generalizing acc with
  | nil =>
    refine ⟨[], acc.reverse, ?_, ?_⟩
    · exact List.splitOnPPrepend_nil
    · exact splitOnPPrepend_of_none ht acc
  | cons c cs ih =>
    rw [List.cons_append, List.splitOnPPrepend_cons_eq_if, List.splitOnPPrepend_cons_eq_if]
    by_cases hc : p c = true
    · obtain ⟨front, last, h, h'⟩ := ih []
      rw [if_pos hc, if_pos hc, List.splitOnP_eq_splitOnPPrepend, List.splitOnP_eq_splitOnPPrepend,
        h, h']
      exact ⟨acc.reverse :: front, last, rfl, rfl⟩
    · rw [if_neg hc, if_neg hc]
      exact ih (c :: acc)

end

/-! ## Escapes of blanks -/

/-- The segments that mean a place end in a dot, or in the escape of one. -/
theorem ends_of_dots {segment : List Char} (h : isUp segment ∨ isHere segment) :
    ".".toList <:+ segment.map Char.toLower ∨ "%2e".toList <:+ segment.map Char.toLower := by
  unfold isUp isHere at h
  rw [decide_eq_true_eq, decide_eq_true_eq] at h
  generalize segment.map Char.toLower = lower at h ⊢
  have hall : ∀ dots ∈ ["..".toList, ".%2e".toList, "%2e.".toList, "%2e%2e".toList] ++
      [".".toList, "%2e".toList], ".".toList <:+ dots ∨ "%2e".toList <:+ dots := by decide
  exact hall lower (List.mem_append.2 h)

variable {z : Char} {t : List Char}

/-- The escape of a blank or a control character: no dot ends in it. -/
theorem escapeChar_margin (hz : IsMargin z) :
    3 ≤ (escapeChar .path z).length ∧
      ¬ ".".toList <:+ (escapeChar .path z).map Char.toLower ∧
      ¬ "%2e".toList <:+ (escapeChar .path z).map Char.toLower :=
  hz.of_points (by decide +kernel)

/-- **Dots behind which blanks stand** mean no place. -/
theorem not_dots_of_margin (ht : ∀ z ∈ t, IsMargin z) (hne : t ≠ []) (last : List Char) :
    ¬ (isUp (escapeWith .path (last ++ t)) ∨ isHere (escapeWith .path (last ++ t))) := by
  obtain ⟨t, z, rfl⟩ := (List.eq_nil_or_concat t).resolve_left hne
  rw [List.concat_eq_append] at ht ⊢
  have hz : IsMargin z := ht z (List.mem_append_right t (List.mem_singleton.2 rfl))
  obtain ⟨hlen, hdot, hescape⟩ := escapeChar_margin hz
  -- Whatever stands in front, a short end is one of the last character's escape.
  have hend {dots : List Char} (hdots : dots.length ≤ 3)
      (h : dots <:+ (escapeWith .path (last ++ (t ++ [z]))).map Char.toLower) :
      dots <:+ (escapeChar .path z).map Char.toLower := by
    refine List.suffix_of_suffix_length_le h ?_ ?_
    · refine List.IsSuffix.map Char.toLower ⟨escapeWith .path (last ++ t), ?_⟩
      simp [escapeWith]
    · rw [List.length_map]
      exact hdots.trans hlen
  intro h
  rcases ends_of_dots h with h | h
  · exact hdot (hend (by decide) h)
  · exact hescape (hend (by decide) h)

/-! ## Paths -/

theorem addAll_append (m : Manner) (front segments : List (List Char)) (last : List Char) :
    addAll m front (segments ++ [last]) = addLast m (segments.foldl (addSegment m) front) last := by
  induction segments generalizing front with
  | nil => rfl
  | cons segment segments ih =>
    rw [List.foldl_cons, ← ih, List.cons_append]
    cases segments <;> rfl

/-- On the web, a last segment that means no place is the last one. -/
theorem addLast_web {front : List (List Char)} {last : List Char}
    (h : ¬ (isUp last ∨ isHere last)) : addLast .web front last = front ++ [last] := by
  unfold addLast addSegment normalDrive
  rw [if_neg h, if_neg (not_or.1 h).1, if_neg (not_or.1 h).2, if_neg (by rintro ⟨⟨⟩, -⟩)]

/-- **Blanks behind a segment change it.** -/
theorem addLast_append_ne (ht : ∀ z ∈ t, IsMargin z) (hne : t ≠ []) (front : List (List Char))
    (last : List Char) :
    addLast .web front (escapeWith .path (last ++ t)) ≠
      addLast .web front (escapeWith .path last) := by
  have hlonger : escapeWith .path (last ++ t) = escapeWith .path last ++ escapeWith .path t :=
    List.flatMap_append
  have hsome : escapeWith .path t ≠ [] := by
    obtain ⟨z, t, rfl⟩ := List.exists_cons_of_ne_nil hne
    have hlen := (escapeChar_margin (ht z List.mem_cons_self)).1
    intro hnil
    rw [show escapeWith .path (z :: t) = escapeChar .path z ++ escapeWith .path t from rfl,
      List.append_eq_nil_iff] at hnil
    rw [hnil.1] at hlen
    cases hlen
  rw [addLast_web (not_dots_of_margin ht hne last)]
  intro h
  by_cases hdots : isUp (escapeWith .path last) ∨ isHere (escapeWith .path last)
  · -- An empty segment would be last.
    unfold addLast at h
    rw [if_pos hdots] at h
    have hlast := (List.append_inj' h rfl).2
    rw [List.singleton_inj, hlonger, List.append_eq_nil_iff] at hlast
    exact hsome hlast.2
  · rw [addLast_web hdots] at h
    have hlast := (List.append_inj' h rfl).2
    rw [List.singleton_inj, hlonger, List.append_right_eq_self] at hlast
    exact hsome hlast

/-- **Blanks behind a path change it.** -/
theorem Path.read_append_eq_iff (ht : ∀ z ∈ t, IsMargin z) (cs : List Char) :
    Path.read .web (cs ++ t) = Path.read .web cs ↔ t = [] := by
  constructor
  · intro h
    by_contra hne
    have hslash : ∀ z ∈ t, Manner.web.isSlash z = false := by
      intro z hz
      exact (ht z hz).of_points (by decide +kernel)
    have hdrop : dropSlash .web (cs ++ t) = dropSlash .web cs ++ t := by
      cases cs with
      | nil =>
        obtain ⟨z, t, rfl⟩ := List.exists_cons_of_ne_nil hne
        rw [List.nil_append, dropSlash, if_neg (by rw [hslash z List.mem_cons_self]; decide)]
        rfl
      | cons c cs =>
        rw [List.cons_append, dropSlash, dropSlash]
        split <;> rfl
    obtain ⟨front, last, hcs, hcst⟩ := splitOnP_append hslash (dropSlash .web cs)
    have hread (text : List Char) :
        Path.read .web text = .rooted (addAll .web []
          (((dropSlash .web text).splitOnP Manner.web.isSlash).map (escapeWith .path))) := rfl
    rw [hread, hread, hdrop, hcst, hcs, List.map_append, List.map_append, List.map_singleton,
      List.map_singleton, addAll_append, addAll_append, Path.rooted.injEq] at h
    exact addLast_append_ne ht hne _ last h
  · rintro rfl
    rw [List.append_nil]

/-! ## Whole texts -/

/-- **Blanks around a text do not matter** to where the URL leads that is read from it: those in
front are left out anyway, and so are those behind it, unless a fragment takes them. -/
def PaddedFreely (s : String) : Prop :=
  cleaned (Text.trim s).toList <+: cleaned s.toList ∧
    (cleaned (Text.trim s).toList = cleaned s.toList ∨ '#' ∈ s.toList)

variable {s : String} {u v : Url}

/-- Blanks of ASCII never matter. -/
theorem paddedFreely_of_ascii (h : ∀ z ∈ s.toList, Text.isBlank z = true → z.toNat ≤ 0x20) :
    PaddedFreely s := by
  obtain ⟨before, after, hs, hbefore, hafter⟩ := Text.exists_append_trimWhere Text.isBlank s.toList
  have houtside {cs : List Char} (hsub : cs ⊆ s.toList) (hcs : ∀ c ∈ cs, Text.isBlank c = true) :
      ∀ c ∈ cs, decide (c.toNat ≤ 0x20) = true :=
    fun c hc => decide_eq_true (h c (hsub hc) (hcs c hc))
  have htrim : Text.trimWhere (fun c => c.toNat ≤ 0x20) (Text.trimWhere Text.isBlank s.toList) =
      Text.trimWhere (fun c => c.toNat ≤ 0x20) s.toList := by
    conv_rhs => rw [hs]
    refine (Text.trimWhere_around (houtside ?_ hbefore) (houtside ?_ hafter) _).symm
    · rw [hs, List.append_assoc]
      exact List.subset_append_left _ _
    · rw [hs]
      exact List.subset_append_right _ _
  have heq : cleaned (Text.trim s).toList = cleaned s.toList := by
    unfold Text.trim
    rw [String.toList_ofList]
    exact congrArg (List.filter (!isSkipped ·)) htrim
  exact ⟨by simp [heq], Or.inl heq⟩

/-- Trimming takes away no mark. -/
theorem partMarks_trim (s : String) :
    partMarks (Text.trim s).toList = partMarks s.toList := by
  unfold Text.trim
  rw [String.toList_ofList]
  exact partMarks_trimWhere (by decide) (by decide) s.toList

/-- **Where blanks do not matter**, a text is read as the URL that it is without them, apart from
the fragment. -/
theorem ofText_of_trim (hfree : PaddedFreely s) (h : ofText (Text.trim s) = .ok v)
    (hweb : v.manner = .web) (hq : v.query = none) :
    ∃ u, ofText s = .ok u ∧ u.withoutFragment = v.withoutFragment := by
  obtain ⟨hfront, heq | hhash⟩ := hfree
  · refine ⟨v, ?_, rfl⟩
    unfold ofText at h ⊢
    rw [heq] at h
    exact h
  · obtain ⟨scheme, behind, a, rest, hscheme, hm, hread, rfl⟩ := ofText_web_iff.1 ⟨h, hweb⟩
    obtain ⟨t, ht⟩ := hfront
    have hscheme' := splitScheme?_append hscheme t
    rw [ht] at hscheme'
    have hmargin : ∀ z ∈ t, IsMargin z := by
      obtain ⟨t', ht', hcleaned⟩ := cleaned_trim_of_splitScheme? hscheme'
      rw [← ht] at hcleaned
      rwa [List.append_cancel_left hcleaned]
    -- What trimming takes away stands behind the hash sign.
    have hmem : '#' ∈ behind := by
      rw [← hash_mem_partMarks, partMarks_behind hscheme, partMarks_cleaned, partMarks_trim,
        hash_mem_partMarks]
      exact hhash
    have hnone : (Parts.of behind).query = none := Option.map_eq_none_iff.1 hq
    have hsame : (Parts.of (behind ++ t)).front = (Parts.of behind).front := by
      rw [Parts.front_append hmargin hnone, if_pos hmem, List.append_nil]
    rw [← Parts.goesOn_append hmargin hnone, ← hsame] at hread
    obtain ⟨hu, -⟩ := ofText_web_iff.2 ⟨scheme, behind ++ t, a, rest, hscheme', hm, hread, rfl⟩
    refine ⟨_, hu, ?_⟩
    have hnone' := (Parts.query_append hmargin).2 hnone
    unfold withoutFragment Parts.queryOf
    dsimp only
    rw [hnone, hnone']

end Teller.Url
