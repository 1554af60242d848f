import Teller.Proofs.Url.Inner

/-!
# URLs read back

The text of a URL of the web falls into its parts again. So one whose path is settled is read back
from its text as soon as any other is that has the same authority: whether an authority is read back
does not depend on what stands behind it.

* `suffix_readAuthority`: what is left behind an authority begins with a slash.
* `ofText_eq_readWithAuthority`: what a text is read as that is put together of parts.
* `Orderly`: URLs whose text falls into its parts; `Orderly.partMarks_chars`: it has no other marks
  of query and fragment than its query.
* `Orderly.ofText_text`: such URLs are read back.
-/

namespace Teller.Url

variable {cs rest : List Char} {scheme : String} {goesOn : Bool} {a : Authority} {m : Manner}

/-! ## What is left behind an authority -/

theorem splitSlash_append (m : Manner) (cs : List Char) :
    (splitSlash m cs).1 ++ (splitSlash m cs).2 = cs := List.takeWhile_append_dropWhile

/-- What stands behind a user ends a text. -/
theorem suffix_splitUser (m : Manner) (cs : List Char) : (splitUser m cs).2 <:+ cs := by
  unfold splitUser
  dsimp only
  split
  · obtain ⟨front, hfront⟩ : ((splitSlash m cs).1.reverse.takeWhile (· ≠ '@')).reverse <:+
        (splitSlash m cs).1 := List.reverse_prefix.1 (by
      rw [List.reverse_reverse]
      exact List.takeWhile_prefix _)
    refine ⟨front, ?_⟩
    dsimp only
    rw [← List.append_assoc, hfront, splitSlash_append]
  · exact List.suffix_refl cs

theorem suffix_splitHost (m : Manner) (bracket : Bool) (cs : List Char) :
    (splitHost m bracket cs).2 <:+ cs ∧
      ∀ c ∈ (splitHost m bracket cs).2.head?, m.isSlash c = true ∨ c = ':' := by
  induction cs generalizing bracket with
  | nil => exact ⟨List.suffix_refl _, fun _ h => nomatch h⟩
  | cons c cs ih =>
    rw [splitHost]
    split
    · rename_i hc
      refine ⟨List.suffix_refl _, fun d hd => ?_⟩
      cases hd
      exact hc.imp_right And.left
    · obtain ⟨hsuffix, hhead⟩ := ih (c == '[' || (bracket && c != ']'))
      exact ⟨hsuffix.trans (List.suffix_cons c cs), hhead⟩

theorem suffix_readPort {acc port : Option Nat} (h : readPort acc cs = .ok (port, rest)) :
    rest <:+ cs ∧ ∀ c ∈ rest.head?, c = '/' ∨ c = '\\' := by
  induction cs generalizing acc with
  | nil =>
    cases h
    exact ⟨List.suffix_refl _, fun _ h => nomatch h⟩
  | cons c cs ih =>
    rw [readPort] at h
    split at h
    · dsimp only at h
      split at h
      · cases h
      · obtain ⟨hsuffix, hhead⟩ := ih h
        exact ⟨hsuffix.trans (List.suffix_cons c cs), hhead⟩
    · split at h
      · rename_i hc
        cases h
        refine ⟨List.suffix_refl _, fun d hd => ?_⟩
        cases hd
        exact hc
      · cases h

/-- **What is left behind an authority** of the web begins with a slash. -/
theorem suffix_readAuthority (hm : mannerOf scheme = .web)
    (h : readAuthority scheme goesOn cs = .ok (a, rest)) :
    rest <:+ cs ∧ ∀ c ∈ rest.head?, Manner.web.isSlash c = true := by
  obtain ⟨user, behind, host, after, huser, hhost, -, -, hport, -, -⟩ := readAuthority_eq_ok.1 h
  rw [hm] at huser hhost
  have hbehind := suffix_splitUser .web cs
  obtain ⟨hafter, hhead⟩ := suffix_splitHost .web false behind
  rw [huser] at hbehind
  rw [hhost] at hafter hhead
  dsimp only at hbehind hafter hhead
  have hsuffix := hafter.trans hbehind
  cases after with
  | nil =>
    rw [← (Prod.mk.inj (Except.ok.inj hport)).2]
    exact ⟨hsuffix, fun _ h => nomatch h⟩
  | cons c after =>
    by_cases hc : c = ':'
    · subst hc
      obtain ⟨n, hn, -⟩ := splitPort_eq_ok.1 hport
      obtain ⟨hrest, hslash⟩ := suffix_readPort hn
      refine ⟨hrest.trans ((List.suffix_cons _ _).trans hsuffix), fun c hc => ?_⟩
      rcases hslash c hc with rfl | rfl <;> rfl
    · rw [splitPort_of_head (by simpa using hc)] at hport
      rw [← (Prod.mk.inj (Except.ok.inj hport)).2]
      refine ⟨hsuffix, fun d hd => (hhead d hd).resolve_right ?_⟩
      cases hd
      exact hc

/-! ## Texts -/

/-- Nothing is left out of a text without spaces and control characters. -/
theorem cleaned_eq_self (h : ∀ c ∈ cs, 0x20 < c.toNat) : cleaned cs = cs := by
  have hdrop {ds : List Char} (hds : ∀ c ∈ ds, 0x20 < c.toNat) :
      ds.dropWhile (fun c => c.toNat ≤ 0x20) = ds := by
    cases ds with
    | nil => rfl
    | cons d ds =>
      have hd := hds d List.mem_cons_self
      rw [List.dropWhile_cons_of_neg]
      simpa using hd
  unfold cleaned
  dsimp only
  rw [hdrop h, hdrop fun c hc => h c (List.mem_reverse.1 hc), List.reverse_reverse,
    List.filter_eq_self]
  intro c hc
  have hlow := h c hc
  have hskipped : ['\t', '\n', '\r'].all (fun d => d.toNat ≤ 0x20) = true := by decide
  rw [Bool.not_eq_true', ← Bool.not_eq_true, isSkipped]
  intro hskip
  have := of_decide_eq_true (List.all_eq_true.1 hskipped c (by simpa [or_assoc] using hskip))
  omega

theorem splitMark_eq_self {mark : Char} (h : mark ∉ cs) : splitMark mark cs = (cs, none) :=
  splitMark_append h []

theorem splitMark_marked {mark : Char} (h : mark ∉ cs) (t : List Char) :
    splitMark mark (cs ++ mark :: t) = (cs, some t) := by
  induction cs with
  | nil => exact if_pos rfl
  | cons c cs ih =>
    rw [List.mem_cons, not_or] at h
    rw [List.cons_append, splitMark, if_neg (Ne.symm h.1), ih h.2]

/-- A front and a query are told apart by the mark between them. -/
theorem Parts.of_marked {query : Option (List Char)} (hcs : '?' ∉ cs ∧ '#' ∉ cs)
    (hquery : ∀ q ∈ query, '#' ∉ q) : Parts.of (cs ++ markedText '?' query) = ⟨cs, query, none⟩ := by
  have hhash : '#' ∉ cs ++ markedText '?' query := by
    rw [List.mem_append, not_or]
    refine ⟨hcs.2, ?_⟩
    cases query with
    | none => exact List.not_mem_nil
    | some q => exact List.not_mem_cons_of_ne_of_not_mem (by decide) (hquery q rfl)
  unfold Parts.of
  rw [splitMark_eq_self hhash]
  dsimp only
  cases query with
  | none =>
    rw [markedText, List.append_nil, splitMark_eq_self hcs.1]
  | some q =>
    rw [markedText, splitMark_marked hcs.1]

theorem splitScheme?_web (h : scheme = "http" ∨ scheme = "https") (behind : List Char) :
    splitScheme? (scheme.toList ++ ':' :: behind) = some (scheme, behind) := by
  rw [splitScheme?_eq_some_iff]
  rcases h with rfl | rfl
  · exact ⟨'h', "ttp".toList, rfl, by decide, List.all_eq_true.1 (by decide), by decide⟩
  · exact ⟨'h', "ttps".toList, rfl, by decide, List.all_eq_true.1 (by decide), by decide⟩

/-- No slash stands between the two in front of an authority and the text of it. -/
theorem dropWhile_slashes (h : a.text ≠ [] ∧ ∀ c ∈ a.text, isInner c = true) :
    ('/' :: '/' :: (a.text ++ rest)).dropWhile Manner.web.isSlash = a.text ++ rest := by
  obtain ⟨c, cs, htext⟩ := List.exists_cons_of_ne_nil h.1
  have hc : isInner c = true := h.2 c (htext ▸ List.mem_cons_self)
  have hslash := not_isSlash_of_isInner hc
  rw [List.dropWhile_cons_of_pos rfl, List.dropWhile_cons_of_pos rfl, htext, List.cons_append,
    List.dropWhile_cons_of_neg (by rw [hslash]; exact Bool.false_ne_true)]

/-- **What a text of the web is read as** that falls into a scheme, the text of an authority, a path
and a query. -/
theorem ofText_eq_readWithAuthority {path : List Char} {query : Option (List Char)}
    (hscheme : scheme = "http" ∨ scheme = "https")
    (ha : a.text ≠ [] ∧ ∀ c ∈ a.text, isInner c = true)
    (hpath : ∀ c ∈ path, c = '/' ∨ isInner c = true)
    (hquery : ∀ q ∈ query, ∀ c ∈ q, 0x20 < c.toNat ∧ c ≠ '#') :
    ofText (String.ofList (scheme.toList ++ ':' :: '/' :: '/' ::
        (a.text ++ '/' :: path ++ markedText '?' query))) =
      readWithAuthority scheme ⟨'/' :: '/' :: (a.text ++ '/' :: path), query, none⟩
        (a.text ++ '/' :: path) := by
  have hfront : ∀ c ∈ '/' :: '/' :: (a.text ++ '/' :: path), c = '/' ∨ isInner c = true := by
    refine List.forall_mem_cons.2 ⟨.inl rfl, List.forall_mem_cons.2 ⟨.inl rfl, ?_⟩⟩
    exact List.forall_mem_append.2
      ⟨fun c hc => .inr (ha.2 c hc), List.forall_mem_cons.2 ⟨.inl rfl, hpath⟩⟩
  have hmarks : '?' ∉ '/' :: '/' :: (a.text ++ '/' :: path) ∧
      '#' ∉ '/' :: '/' :: (a.text ++ '/' :: path) := by
    constructor
    · exact fun h => absurd (hfront _ h) (by decide)
    · exact fun h => absurd (hfront _ h) (by decide)
  have hparts := Parts.of_marked hmarks fun q hq h => (hquery q hq _ h).2 rfl
  have hbehind : ∀ c ∈ '/' :: '/' :: (a.text ++ '/' :: path) ++ markedText '?' query,
      0x20 < c.toNat := by
    refine List.forall_mem_append.2 ⟨fun c hc => ?_, ?_⟩
    · rcases hfront c hc with rfl | hc
      · decide
      · exact (isInner_iff.1 hc).1
    · cases query with
      | none => exact fun _ h => nomatch h
      | some q => exact List.forall_mem_cons.2 ⟨by decide, fun c hc => (hquery q rfl c hc).1⟩
  have hm : mannerOf scheme = .web := by rcases hscheme with rfl | rfl <;> decide
  have hlow : scheme.toList.all (fun c => 0x20 < c.toNat) = true := by
    rcases hscheme with rfl | rfl <;> decide
  unfold ofText
  rw [String.toList_ofList, cleaned_eq_self, splitScheme?_web hscheme]
  · dsimp only
    rw [← List.cons_append, ← List.cons_append, hparts, readBehind, hm]
    dsimp only
    rw [dropWhile_slashes ha]
  · exact List.forall_mem_append.2
      ⟨fun c hc => of_decide_eq_true (List.all_eq_true.1 hlow c hc),
        List.forall_mem_cons.2 ⟨by decide, hbehind⟩⟩

/-- A URL of the web whose text falls into its parts: the path is settled, the query is escaped, and
nothing else follows. -/
structure Orderly (u : Url) : Prop where
  scheme : u.scheme = "http" ∨ u.scheme = "https"
  authority : ∃ a, u.authority = some a ∧ a.text ≠ [] ∧ ∀ c ∈ a.text, isInner c = true
  path : ∃ segments, u.path = .rooted segments ∧ segments ≠ [] ∧ ∀ s ∈ segments, Settled s
  query : ∀ q ∈ u.query, escapeWith (.query true) q = q
  fragment : u.fragment = none

variable {u v : Url} {s : String}

/-- Without its query and its fragment, a URL of the web is so. -/
theorem orderly_of_ofText (h : ofText s = .ok u) (hscheme : u.scheme = "http" ∨ u.scheme = "https")
    (hweb : u.manner = .web) : u.bare.Orderly := by
  obtain ⟨scheme, behind, a, rest, -, hm, hread, rfl⟩ := ofText_web_iff.1 ⟨h, hweb⟩
  exact
    { scheme := hscheme
      authority := ⟨a, rfl, inner_readAuthority hm hread⟩
      path := exists_settled_of_read rest
      query := fun _ h => nomatch h
      fragment := rfl }

/-- **The text of such a URL** is that of its authority, a path that it is read from, and the
query. -/
theorem Orderly.exists_text (h : u.Orderly) :
    ∃ a path, u.authority = some a ∧ (a.text ≠ [] ∧ ∀ c ∈ a.text, isInner c = true) ∧
      (∀ c ∈ path, c = '/' ∨ isInner c = true) ∧ Path.read .web ('/' :: path) = u.path ∧
      u.chars = u.scheme.toList ++ ':' :: '/' :: '/' ::
        (a.text ++ '/' :: path ++ markedText '?' u.query) := by
  obtain ⟨a, ha, hne, hinner⟩ := h.authority
  obtain ⟨segments, hpath, hsome, hsettled⟩ := h.path
  obtain ⟨segment, segments, rfl⟩ := List.exists_cons_of_ne_nil hsome
  refine ⟨a, segment ++ segmentsText segments, ha, ⟨hne, hinner⟩, ?_, ?_, ?_⟩
  · rw [List.forall_mem_cons] at hsettled
    refine List.forall_mem_append.2 ⟨fun c hc => .inr (hsettled.1.inner c hc), fun c hc => ?_⟩
    obtain ⟨s, hs, hc⟩ := List.mem_flatMap.1 hc
    exact (List.mem_cons.1 hc).imp_right ((hsettled.2 s hs).inner c)
  · rw [hpath]
    exact read_segmentsText hsome hsettled
  · unfold chars frontText
    rw [ha, hpath, h.fragment]
    simp [Path.text, segmentsText, markedText]

/-- **What tells query and fragment** in its text stands in its query: there is no other mark. -/
theorem Orderly.partMarks_chars (h : u.Orderly) :
    partMarks u.chars = partMarks (markedText '?' u.query) := by
  obtain ⟨a, path, -, ⟨-, hinner⟩, hpath, -, hchars⟩ := h.exists_text
  have hnone {cs : List Char} (hcs : ∀ c ∈ cs, c = '/' ∨ isInner c = true) :
      partMarks cs = [] := by
    refine partMarks_eq_nil fun c hc => ?_
    rcases hcs c hc with rfl | hc
    · decide
    · exact ⟨(isInner_iff.1 hc).2.2.2.1, (isInner_iff.1 hc).2.2.2.2⟩
  have hscheme : u.scheme.toList.all isInner = true := by
    rcases h.scheme with h | h <;> rw [h] <;> decide
  have hfront : u.chars = (u.scheme.toList ++ ':' :: '/' :: '/' :: (a.text ++ '/' :: path)) ++
      markedText '?' u.query := by
    rw [hchars]
    simp
  rw [hfront, partMarks_append, hnone, List.nil_append]
  refine List.forall_mem_append.2 ⟨fun c hc => .inr (List.all_eq_true.1 hscheme c hc),
    List.forall_mem_cons.2 ⟨.inr (by decide), List.forall_mem_cons.2 ⟨.inl rfl,
      List.forall_mem_cons.2 ⟨.inl rfl, ?_⟩⟩⟩⟩
  exact List.forall_mem_append.2
    ⟨fun c hc => .inr (hinner c hc), List.forall_mem_cons.2 ⟨.inl rfl, hpath⟩⟩

/-- **A URL is read back from its text** if another one is that has the same authority. -/
theorem Orderly.ofText_text (hu : u.Orderly) (hv : v.Orderly) (hscheme : v.scheme = u.scheme)
    (hauthority : v.authority = u.authority) (h : ofText u.text = .ok u) :
    ofText v.text = .ok v := by
  obtain ⟨a, path, ha, hinner, hpath, -, hchars⟩ := hu.exists_text
  obtain ⟨_, path', ha', -, hpath', hread', hchars'⟩ := hv.exists_text
  cases (ha'.symm.trans (hauthority.trans ha))
  have hm : mannerOf u.scheme = .web := by rcases hu.scheme with h | h <;> rw [h] <;> decide
  rw [text, hchars, ofText_eq_readWithAuthority hu.scheme hinner hpath
    fun q hq => of_mem_query (hu.query q hq)] at h
  obtain ⟨_, rest, hrest, heq⟩ := readWithAuthority_eq_ok.1 h
  cases ha.symm.trans (congrArg Url.authority heq)
  have hslash : (mannerOf u.scheme).isSlash '/' = true := by rw [hm]; rfl
  obtain ⟨after, rfl, hafter⟩ := readAuthority_slash hslash
    (fun c hc => by rw [hm]; exact not_isSlash_of_isInner (hinner.2 c hc)) hrest
  -- No slash stands in the authority, so all that is left behind it is the path.
  obtain ⟨hsuffix, hhead⟩ := suffix_readAuthority hm hrest
  have hnil : after = [] := by
    cases after with
    | nil => rfl
    | cons c after =>
      have hc : Manner.web.isSlash c = true := hhead c rfl
      obtain ⟨front, hfront⟩ := hsuffix
      rw [← List.append_assoc, List.append_cancel_right_eq] at hfront
      have hmem : c ∈ a.text := by
        rw [← hfront]
        simp
      rw [not_isSlash_of_isInner (hinner.2 c hmem)] at hc
      cases hc
  subst hnil
  rw [text, hchars', ofText_eq_readWithAuthority hv.scheme hinner hpath'
    fun q hq => of_mem_query (hv.query q hq), hscheme]
  refine readWithAuthority_eq_ok.2 ⟨a, '/' :: path', hafter _ path', ?_⟩
  have hquery : v.query.map (escapeWith (.query true)) = v.query := by
    cases hq : v.query with
    | none => rfl
    | some q => exact congrArg some (hv.query q hq)
  calc v = ⟨v.scheme, v.authority, v.path, v.query, v.fragment⟩ := rfl
    _ = ⟨u.scheme, some a, .read .web ('/' :: path'), v.query.map (escapeWith (.query true)),
        none⟩ := by rw [hscheme, ha', hread', hquery, hv.fragment]
    _ = _ := by rw [hm]; rfl

end Teller.Url
