import Teller.Proofs.Text.Trim
import Teller.Proofs.Url.Authority

/-!
# What a URL of the web is read from

A URL of the web has a scheme, an authority with a host, and a path; what stands behind its front
makes its query and its fragment.

* `splitScheme?_eq_some_iff`: what a scheme is read from.
* `CarriesQuery`: texts with a query; `query_isSome_iff`: those are read as such.
* `ofText_web_iff`: what a URL of the web is read from.
-/

namespace Teller.Url

variable {cs behind : List Char} {scheme : String}

/-! ## Schemes -/

/-- **A scheme** is a letter and what may follow it in front of a colon, in lower case. -/
theorem splitScheme?_eq_some_iff :
    splitScheme? cs = some (scheme, behind) ↔
      ∃ c area, cs = c :: area ++ ':' :: behind ∧ c.isAlpha = true ∧
        (∀ a ∈ area, isSchemeChar a = true) ∧
        scheme = String.ofList ((c :: area).map Char.toLower) := by
  constructor
  · intro h
    unfold splitScheme? at h
    split at h
    · cases h
    rename_i c cs
    split at h
    swap
    · cases h
    rename_i hc
    split at h
    · rename_i rest hrest
      cases h
      refine ⟨c, cs.takeWhile isSchemeChar, ?_, hc, fun a => List.mem_takeWhile_imp, rfl⟩
      rw [List.cons_append, ← hrest, List.takeWhile_append_dropWhile]
    · cases h
  · rintro ⟨c, area, rfl, hc, harea, rfl⟩
    have hcolon : ¬ isSchemeChar ':' = true := by decide
    rw [List.cons_append, splitScheme?, if_pos hc, List.dropWhile_append_of_pos harea,
      List.takeWhile_append_of_pos harea, List.dropWhile_cons_of_neg hcolon,
      List.takeWhile_cons_of_neg hcolon, List.append_nil]
    rfl

/-- What stands behind a text does not matter to its scheme. -/
theorem splitScheme?_append (h : splitScheme? cs = some (scheme, behind)) (t : List Char) :
    splitScheme? (cs ++ t) = some (scheme, behind ++ t) := by
  obtain ⟨c, area, rfl, hc, harea, hscheme⟩ := splitScheme?_eq_some_iff.1 h
  refine splitScheme?_eq_some_iff.2 ⟨c, area, ?_, hc, harea, hscheme⟩
  simp

/-- A letter begins a scheme. -/
theorem isAlpha_of_splitScheme? {c : Char} {p : String × List Char}
    (h : splitScheme? (c :: cs) = some p) : c.isAlpha = true := by
  obtain ⟨_, _, heq, hc, -⟩ := splitScheme?_eq_some_iff.1 h
  cases heq
  exact hc

/-! ## Marks -/

/-- The marks in a text that end the front of a URL, and its query. -/
def partMarks (cs : List Char) : List Char := cs.filter fun c => c == '?' || c == '#'

/-- **A text carries a query** if the first of these marks is a question mark. -/
def CarriesQuery (s : String) : Prop := (partMarks s.toList).head? = some '?'

theorem partMarks_append (cs ds : List Char) :
    partMarks (cs ++ ds) = partMarks cs ++ partMarks ds := List.filter_append cs ds

/-- What has none of these marks does not matter. -/
theorem partMarks_eq_nil (h : ∀ c ∈ cs, c ≠ '?' ∧ c ≠ '#') : partMarks cs = [] := by
  unfold partMarks
  rw [List.filter_eq_nil_iff]
  intro c hc
  simp [h c hc]

theorem hash_mem_partMarks (cs : List Char) : '#' ∈ partMarks cs ↔ '#' ∈ cs := by
  unfold partMarks
  rw [List.mem_filter]
  exact and_iff_left rfl

/-- No mark stands in a scheme. -/
theorem partMarks_behind (h : splitScheme? cs = some (scheme, behind)) :
    partMarks behind = partMarks cs := by
  obtain ⟨c, area, rfl, hc, harea, -⟩ := splitScheme?_eq_some_iff.1 h
  have hnone : partMarks (c :: area ++ [':']) = [] := by
    refine partMarks_eq_nil fun a ha => ?_
    constructor
    all_goals
      rintro rfl
      rw [List.cons_append, List.mem_cons, List.mem_append, List.mem_singleton] at ha
      rcases ha with rfl | ha | ha
      · exact absurd hc (by decide)
      · exact absurd (harea _ ha) (by decide)
      · cases ha
  rw [show c :: area ++ ':' :: behind = (c :: area ++ [':']) ++ behind by simp, partMarks_append,
    hnone, List.nil_append]

/-- Trimming takes away no mark, … -/
theorem partMarks_trimWhere {drop : Char → Bool} (hq : drop '?' = false) (hh : drop '#' = false)
    (cs : List Char) : partMarks (Text.trimWhere drop cs) = partMarks cs := by
  obtain ⟨before, after, heq, hbefore, hafter⟩ := Text.exists_append_trimWhere drop cs
  have hnone {ds : List Char} (hds : ∀ c ∈ ds, drop c = true) : partMarks ds = [] := by
    refine partMarks_eq_nil fun c hc => ⟨?_, ?_⟩
    · rintro rfl
      rw [hds _ hc] at hq
      cases hq
    · rintro rfl
      rw [hds _ hc] at hh
      cases hh
  conv_rhs => rw [heq]
  rw [partMarks_append, partMarks_append, hnone hbefore, hnone hafter, List.nil_append,
    List.append_nil]

/-- … nor does cleaning. -/
theorem partMarks_cleaned (cs : List Char) : partMarks (cleaned cs) = partMarks cs := by
  have htrim : partMarks (Text.trimWhere (fun c => c.toNat ≤ 0x20) cs) = partMarks cs :=
    partMarks_trimWhere (by decide) (by decide) cs
  rw [← htrim]
  unfold partMarks cleaned
  rw [List.filter_filter]
  refine List.filter_congr fun c _ => ?_
  by_cases hc : c = '?' ∨ c = '#'
  · rcases hc with rfl | rfl <;> rfl
  · rw [not_or] at hc
    simp [hc]

/-- **What carries a query** is read with one. -/
theorem query_isSome_iff : (Parts.of cs).query.isSome ↔ (partMarks cs).head? = some '?' := by
  -- The first mark decides, and both sides pass over all characters in front of it.
  induction cs with
  | nil => decide
  | cons c cs ih =>
    unfold Parts.of at ih ⊢
    unfold partMarks at ih ⊢
    by_cases hhash : c = '#'
    · subst hhash
      simp [splitMark]
    · by_cases hquery : c = '?'
      · subst hquery
        simp [splitMark]
      · simpa [splitMark, hhash, hquery] using ih

theorem splitMark_eq_none_iff {mark : Char} : (splitMark mark cs).2 = none ↔ mark ∉ cs := by
  induction cs with
  | nil => simp [splitMark]
  | cons c cs ih =>
    rw [splitMark, List.mem_cons, not_or]
    split
    · rename_i hc
      simp [hc]
    · rename_i hc
      rw [ih]
      exact (and_iff_right (Ne.symm hc)).symm

/-- A fragment stands behind a hash sign. -/
theorem fragment_eq_none_iff : (Parts.of cs).fragment = none ↔ '#' ∉ cs := splitMark_eq_none_iff

/-! ## URLs -/

theorem readFile_scheme {p : Parts} {cs : List Char} {u : Url} (h : readFile p cs = .ok u) :
    u.scheme = "file" := by
  unfold readFile at h
  split at h
  · split at h
    · split at h
      rename_i host path hsplit
      split at h
      · cases h
        rfl
      · cases hf : readFileHost host with
        | error err =>
          rw [hf] at h
          cases h
        | ok host =>
          rw [hf] at h
          cases h
          rfl
    · cases h
      rfl
  · cases h
    rfl

theorem readWithAuthority_eq_ok {scheme : String} {p : Parts} {cs : List Char} {u : Url} :
    readWithAuthority scheme p cs = .ok u ↔
      ∃ a rest, readAuthority scheme p.goesOn cs = .ok (a, rest) ∧
        u = ⟨scheme, some a, .read (mannerOf scheme) rest, p.queryOf (mannerOf scheme),
          p.fragmentOf⟩ := by
  show (readAuthority scheme p.goesOn cs).bind _ = _ ↔ _
  cases readAuthority scheme p.goesOn cs with
  | error err =>
    constructor
    · intro h
      cases h
    · rintro ⟨a, rest, h, -⟩
      cases h
  | ok q =>
    constructor
    · intro h
      cases h
      exact ⟨q.1, q.2, rfl, rfl⟩
    · rintro ⟨a, rest, ⟨⟩, rfl⟩
      rfl

theorem readPlain_scheme {scheme : String} {p : Parts} {cs : List Char} {u : Url}
    (h : readPlain scheme p cs = .ok u) : u.scheme = scheme := by
  unfold readPlain at h
  split at h
  · obtain ⟨a, rest, -, rfl⟩ := readWithAuthority_eq_ok.1 h
    rfl
  · cases h
    rfl
  · cases h
    rfl

/-- A URL has the scheme that its text begins with. -/
theorem readBehind_scheme {scheme : String} {p : Parts} {cs : List Char} {u : Url}
    (h : readBehind scheme p cs = .ok u) : u.scheme = scheme := by
  unfold readBehind at h
  cases hm : mannerOf scheme with
  | web =>
    rw [hm] at h
    obtain ⟨a, rest, -, rfl⟩ := readWithAuthority_eq_ok.1 h
    rfl
  | file =>
    rw [hm] at h
    rw [readFile_scheme h]
    unfold mannerOf at hm
    split at hm
    · rename_i h
      exact h.symm
    · split at hm <;> cases hm
  | plain =>
    rw [hm] at h
    exact readPlain_scheme h

/-- **What a URL of the web is read from**: a scheme, an authority and a path, and what stands
behind them. -/
theorem ofText_web_iff {s : String} {u : Url} :
    ofText s = .ok u ∧ u.manner = .web ↔
      ∃ scheme behind a rest, splitScheme? (cleaned s.toList) = some (scheme, behind) ∧
        mannerOf scheme = .web ∧
        readAuthority scheme (Parts.of behind).goesOn
          ((Parts.of behind).front.dropWhile Manner.web.isSlash) = .ok (a, rest) ∧
        u = ⟨scheme, some a, .read .web rest, (Parts.of behind).queryOf .web,
          (Parts.of behind).fragmentOf⟩ := by
  unfold ofText
  cases hscheme : splitScheme? (cleaned s.toList) with
  | none =>
    constructor
    · rintro ⟨⟨⟩, -⟩
    · rintro ⟨_, _, _, _, ⟨⟩, -⟩
  | some p =>
    obtain ⟨scheme, behind⟩ := p
    dsimp only
    constructor
    · rintro ⟨h, hweb⟩
      have hm : mannerOf scheme = .web := by
        rw [← readBehind_scheme h]
        exact hweb
      unfold readBehind at h
      rw [hm] at h
      obtain ⟨a, rest, hread, rfl⟩ := readWithAuthority_eq_ok.1 h
      rw [hm]
      exact ⟨scheme, behind, a, rest, rfl, hm, hread, rfl⟩
    · rintro ⟨_, _, a, rest, ⟨⟩, hm, hread, rfl⟩
      unfold readBehind
      rw [hm]
      refine ⟨readWithAuthority_eq_ok.2 ⟨a, rest, hread, ?_⟩, hm⟩
      rw [hm]

variable {s : String} {u : Url}

/-- On the web there is always a host. -/
theorem host?_isSome_of_web (h : ofText s = .ok u) (hweb : u.manner = .web) :
    u.host?.isSome := by
  obtain ⟨scheme, behind, a, rest, -, hm, hread, rfl⟩ := ofText_web_iff.1 ⟨h, hweb⟩
  obtain ⟨_, _, host, after, -, -, -, hhost, -⟩ := readAuthority_eq_ok.1 hread
  unfold readHost at hhost
  rw [hm] at hhost
  split at hhost
  · have hspecial : Manner.web.special = true ∨ after.head? = some ':' := Or.inl rfl
    rw [if_pos hspecial] at hhost
    cases hhost
  · cases hof : Host.ofText Manner.web.special host with
    | error err =>
      rw [hof] at hhost
      cases hhost
    | ok found =>
      rw [hof] at hhost
      show a.host.isSome
      rw [← Except.ok.inj hhost]
      rfl

/-- On the web, the path has segments. -/
theorem isFlat_of_web (h : ofText s = .ok u) (hweb : u.manner = .web) : u.isFlat = false := by
  obtain ⟨_, _, _, _, -, -, -, rfl⟩ := ofText_web_iff.1 ⟨h, hweb⟩
  rfl

/-- On the web, a URL has a query if its text carries one. -/
theorem query_isSome_of_web (h : ofText s = .ok u) (hweb : u.manner = .web) :
    u.query.isSome ↔ CarriesQuery s := by
  obtain ⟨_, behind, _, _, hscheme, -, -, rfl⟩ := ofText_web_iff.1 ⟨h, hweb⟩
  show ((Parts.of behind).query.map _).isSome ↔ _
  rw [Option.isSome_map, query_isSome_iff, partMarks_behind hscheme, partMarks_cleaned]
  rfl

end Teller.Url
