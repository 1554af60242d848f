import Mathlib.Data.List.TakeWhile
import Teller.Proofs.Domain.Blank
import Teller.Url.Read

/-!
# Where an authority ends

An authority ends in front of the first slash. Blanks and control characters behind a text are never
part of it: on the web no host and no port ends in one, and behind a slash they belong to the path.

* `Host.ofText_margin`: no host of the web ends so.
* `readAuthority_eq_ok`: what an authority is read from.
* `readAuthority_slash`: nothing behind the first slash matters to it.
* `readAuthority_append`: nor do blanks and control characters behind the text.
-/

namespace Teller.Url

open Text (IsMargin hexValue?)

variable {z : Char}

/-- Blanks and control characters mean nothing in a URL. -/
theorem plain_of_margin (hz : IsMargin z) :
    isSchemeChar z = false ∧ z.isDigit = false ∧ hexValue? z = none ∧
      z ∉ ['#', '?', '/', '\\', ':', '@', '%', ']'] :=
  hz.of_points (by decide +kernel)

/-! ## Hosts -/

/-- Where no escape begins, a character is written as it is. -/
theorem unescape_cons {c : Char} {cs : List Char}
    (h : c = '%' → ∀ a b r, cs = a :: b :: r → hexValue? a = none ∨ hexValue? b = none) :
    unescape (c :: cs) = String.utf8EncodeChar c ++ unescape cs := by
  by_cases hc : c = '%'
  · subst hc
    match cs with
    | [] => simp [unescape]
    | [a] => rw [unescape, if_pos rfl]
    | a :: b :: r =>
      rw [unescape, if_pos rfl]
      split
      · rename_i m n ha hb
        rcases h rfl a b r rfl with h | h
        · rw [h] at ha
          cases ha
        · rw [h] at hb
          cases hb
      · rfl
  · rw [unescape.eq_def]
    exact if_neg hc

/-- A single character begins no escape. -/
theorem unescape_singleton (c : Char) : unescape [c] = String.utf8EncodeChar c := by
  rw [unescape_cons fun _ _ _ _ h => (by cases h), unescape, List.append_nil]

theorem unescape_margin (hz : IsMargin z) (cs : List Char) :
    unescape (cs ++ [z]) = unescape cs ++ String.utf8EncodeChar z := by
  obtain ⟨-, -, hhex, hmarks⟩ := plain_of_margin hz
  fun_induction unescape cs with
  | case1 =>
    exact unescape_singleton z
  | case2 a b r m n hb ha ih =>
    simp only [List.cons_append, unescape, if_true, ha, hb, ih]
  | case3 a b r hab ih =>
    rw [List.cons_append, unescape_cons, ih, List.append_assoc]
    rintro - a' b' r' h
    cases h
    by_contra hno
    obtain ⟨m, hm⟩ := Option.ne_none_iff_exists'.1 (not_or.1 hno).1
    obtain ⟨n, hn⟩ := Option.ne_none_iff_exists'.1 (not_or.1 hno).2
    exact hab m n hm hn
  | case4 a ih =>
    rw [List.cons_append, unescape_cons, ih, List.append_assoc]
    rintro - a' b' r' h
    cases h
    exact Or.inr hhex
  | case5 =>
    rw [List.cons_append, List.nil_append, unescape_cons fun _ _ _ _ h => (by cases h),
      unescape_singleton]
  | case6 c cs hc ih =>
    rw [List.cons_append, unescape_cons fun h => absurd h hc, ih, List.append_assoc]

/-- The octets of a blank or a control character are read as that character. -/
theorem runs_margin (hz : IsMargin z) :
    Text.Utf8.runs (String.utf8EncodeChar z) = [some z] ∧
      Text.Utf8.Apart (String.utf8EncodeChar z) := by
  refine hz.of_points ?_
  unfold Text.Utf8.Apart Text.Utf8.GoesOn
  decide +kernel

/-- **No host of the web ends in a blank** or a control character. -/
theorem Host.ofText_margin (hz : IsMargin z) (cs : List Char) (host : Host) :
    Host.ofText true (cs ++ [z]) ≠ .ok host := by
  obtain ⟨-, -, -, hmarks⟩ := plain_of_margin hz
  have hdomain (cs : List Char) : Host.ofDomain (cs ++ [z]) ≠ .ok host := by
    have hnone : (Text.Utf8.decode? (unescape (cs ++ [z]))).bind Domain.ascii? = none := by
      rw [Option.eq_none_iff_forall_ne_some]
      intro domain h
      obtain ⟨text, htext, h⟩ := Option.bind_eq_some_iff.1 h
      rw [unescape_margin hz] at htext
      have hmem := Text.Utf8.mem_of_decode? (runs_margin hz).1 (runs_margin hz).2 htext
      rw [Domain.ascii?_eq_none_of_margin hz hmem] at h
      cases h
    unfold Host.ofDomain
    rw [hnone]
    exact fun h => nomatch h
  unfold Host.ofText
  split
  · rename_i inner hinner
    unfold Host.bracketed
    split
    · -- The last character is no bracket.
      rename_i hlast _
      cases cs with
      | nil =>
        cases hinner
        cases hlast
      | cons c cs =>
        rw [List.cons_append] at hinner
        cases hinner
        rw [List.getLast?_concat] at hlast
        cases hlast
        exact absurd hmarks (by decide)
    · exact fun h => nomatch h
  · exact hdomain cs

/-! ## Authorities -/

/-- **What an authority is read from**: a user, a host and a port, one behind the other. -/
theorem readAuthority_eq_ok {scheme : String} {goesOn : Bool} {cs rest : List Char}
    {a : Authority} :
    readAuthority scheme goesOn cs = .ok (a, rest) ↔
      ∃ user behind host after,
        splitUser (mannerOf scheme) cs = (user, behind) ∧
        splitHost (mannerOf scheme) false behind = (host, after) ∧
        ¬ (user = some [] ∧
          (if behind.isEmpty then goesOn else behind.head?.any (mannerOf scheme).isSlash)) ∧
        readHost (mannerOf scheme) host after = .ok a.host ∧
        splitPort scheme after = .ok (a.port, rest) ∧
        (a.username, a.password) = readUser (user.getD []) ∧
        ¬ (a.host.isNone ∧ (¬ a.username.isEmpty ∨ a.password.isSome)) := by
  unfold readAuthority
  simp only [bind, Except.bind, pure, Except.pure, throw, throwThe, MonadExceptOf.throw]
  generalize splitUser (mannerOf scheme) cs = su
  obtain ⟨user, behind⟩ := su
  dsimp only
  generalize hsh : splitHost (mannerOf scheme) false behind = sh
  obtain ⟨host, after⟩ := sh
  dsimp only
  generalize hru : readUser (user.getD []) = ru
  obtain ⟨username, password⟩ := ru
  constructor
  · intro h
    by_cases huser : user = some [] ∧
        (if behind.isEmpty then goesOn else behind.head?.any (mannerOf scheme).isSlash)
    · rw [if_pos huser] at h
      cases h
    rw [if_neg huser] at h
    cases hhost : readHost (mannerOf scheme) host after with
    | error err =>
      rw [hhost] at h
      cases h
    | ok found =>
      cases hport : splitPort scheme after with
      | error err =>
        rw [hhost, hport] at h
        cases h
      | ok p =>
        rw [hhost, hport] at h
        dsimp only at h
        by_cases hnamed : found.isNone ∧ (¬ username.isEmpty ∨ password.isSome)
        · rw [if_pos hnamed] at h
          cases h
        · rw [if_neg hnamed] at h
          cases h
          exact ⟨user, behind, host, after, rfl, hsh, huser, hhost, hport, hru.symm, hnamed⟩
  · rintro ⟨_, _, _, _, ⟨⟩, hsh', huser, hhost, hport, hru', hnamed⟩
    rw [hsh] at hsh'
    cases hsh'
    rw [hru] at hru'
    cases hru'
    rw [if_neg huser, hhost]
    dsimp only
    rw [hport]
    exact if_neg hnamed

/-! ### Up to a slash -/

section

variable {m : Manner} {s : Char}

theorem splitSlash_slash (hs : m.isSlash s = true) {area : List Char}
    (harea : ∀ c ∈ area, m.isSlash c = false) (tail : List Char) :
    splitSlash m (area ++ s :: tail) = (area, s :: tail) := by
  have hall : ∀ c ∈ area, (!m.isSlash c) = true := fun c hc => by rw [harea c hc]; rfl
  unfold splitSlash
  rw [List.takeWhile_append_of_pos hall, List.dropWhile_append_of_pos hall,
    List.takeWhile_cons_of_neg (by simp [hs]), List.dropWhile_cons_of_neg (by simp [hs]),
    List.append_nil]

/-- What a user is read from ends in front of the first slash. -/
theorem splitUser_slash (hs : m.isSlash s = true) {area : List Char}
    (harea : ∀ c ∈ area, m.isSlash c = false) :
    ∃ user behind, ∀ tail, splitUser m (area ++ s :: tail) = (user, behind ++ s :: tail) := by
  generalize hbehind : (area.reverse.takeWhile (· ≠ '@')).reverse = behind
  by_cases h : behind.length < area.length
  · refine ⟨some (area.take (area.length - behind.length - 1)), behind, fun tail => ?_⟩
    unfold splitUser
    rw [splitSlash_slash hs harea]
    dsimp only
    rw [hbehind, if_pos h]
  · refine ⟨none, area, fun tail => ?_⟩
    unfold splitUser
    rw [splitSlash_slash hs harea]
    dsimp only
    rw [hbehind, if_neg h]

theorem splitHost_slash (hs : m.isSlash s = true) (cs : List Char) (bracket : Bool) :
    ∃ host after, ∀ tail, splitHost m bracket (cs ++ s :: tail) = (host, after ++ s :: tail) := by
  induction cs generalizing bracket with
  | nil => exact ⟨[], [], fun tail => by simp [splitHost, hs]⟩
  | cons c cs ih =>
    by_cases hc : m.isSlash c = true ∨ (c = ':' ∧ ¬ bracket)
    · exact ⟨[], c :: cs, fun tail => if_pos hc⟩
    · obtain ⟨host, after, h⟩ := ih (c == '[' || (bracket && c != ']'))
      refine ⟨c :: host, after, fun tail => ?_⟩
      rw [List.cons_append, splitHost, if_neg hc, h]

theorem readPort_slash (hs : s = '/' ∨ s = '\\') {cs tail rest : List Char} {acc port : Option Nat}
    (h : readPort acc (cs ++ s :: tail) = .ok (port, rest)) :
    ∃ after, rest = after ++ s :: tail ∧
      ∀ tail', readPort acc (cs ++ s :: tail') = .ok (port, after ++ s :: tail') := by
  have hdigit : s.isDigit = false := by rcases hs with rfl | rfl <;> decide
  induction cs generalizing acc with
  | nil =>
    have heq (tail : List Char) : readPort acc (s :: tail) = .ok (acc, s :: tail) := by
      rw [readPort, if_neg (by simp [hdigit]), if_pos hs]
    rw [List.nil_append, heq] at h
    cases h
    exact ⟨[], rfl, heq⟩
  | cons c cs ih =>
    rw [List.cons_append, readPort] at h
    split at h
    · rename_i hc
      dsimp only at h
      split at h
      · cases h
      rename_i hn
      obtain ⟨after, hrest, hafter⟩ := ih h
      refine ⟨after, hrest, fun tail' => ?_⟩
      rw [List.cons_append, readPort, if_pos hc]
      dsimp only
      rw [if_neg hn, hafter]
    · rename_i hc
      split at h
      · rename_i hslash
        cases h
        refine ⟨c :: cs, rfl, fun tail' => ?_⟩
        rw [List.cons_append, readPort, if_neg hc, if_pos hslash]
      · cases h

theorem splitPort_of_head {scheme : String} {cs : List Char} (h : cs.head? ≠ some ':') :
    splitPort scheme cs = .ok (none, cs) := by
  unfold splitPort
  split
  · exact absurd rfl h
  · rfl

theorem splitPort_eq_ok {scheme : String} {cs rest : List Char} {port : Option Nat} :
    splitPort scheme (':' :: cs) = .ok (port, rest) ↔
      ∃ n, readPort none cs = .ok (n, rest) ∧
        port = if n = defaultPort? scheme then none else n := by
  show (readPort none cs).bind _ = _ ↔ _
  cases readPort none cs with
  | error err =>
    constructor
    · intro h
      cases h
    · rintro ⟨n, h, -⟩
      cases h
  | ok p =>
    constructor
    · intro h
      cases h
      exact ⟨p.1, rfl, rfl⟩
    · rintro ⟨n, ⟨⟩, rfl⟩
      rfl

theorem head?_append_cons {α : Type} (xs : List α) (x : α) (ys zs : List α) :
    (xs ++ x :: ys).head? = (xs ++ x :: zs).head? := by
  cases xs <;> rfl

theorem splitPort_slash (hs : s = '/' ∨ s = '\\') {scheme : String} {cs tail rest : List Char}
    {port : Option Nat} (h : splitPort scheme (cs ++ s :: tail) = .ok (port, rest)) :
    ∃ after, rest = after ++ s :: tail ∧
      ∀ tail', splitPort scheme (cs ++ s :: tail') = .ok (port, after ++ s :: tail') := by
  by_cases hhead : (cs ++ s :: tail).head? = some ':'
  · cases cs with
    | nil => rcases hs with rfl | rfl <;> cases hhead
    | cons c cs =>
      cases hhead
      obtain ⟨n, hn, rfl⟩ := splitPort_eq_ok.1 h
      obtain ⟨after, hrest, hafter⟩ := readPort_slash hs hn
      exact ⟨after, hrest, fun tail' => splitPort_eq_ok.2 ⟨n, hafter tail', rfl⟩⟩
  · rw [splitPort_of_head hhead] at h
    cases h
    refine ⟨cs, rfl, fun tail' => splitPort_of_head ?_⟩
    rwa [head?_append_cons cs s tail' tail]

/-- **An authority ends in front of the first slash**, and nothing behind that matters to it. -/
theorem readAuthority_slash {scheme : String} {goesOn : Bool} {area tail rest : List Char}
    {a : Authority} (hs : (mannerOf scheme).isSlash s = true)
    (harea : ∀ c ∈ area, (mannerOf scheme).isSlash c = false)
    (h : readAuthority scheme goesOn (area ++ s :: tail) = .ok (a, rest)) :
    ∃ after, rest = after ++ s :: tail ∧ ∀ goesOn' tail',
      readAuthority scheme goesOn' (area ++ s :: tail') = .ok (a, after ++ s :: tail') := by
  have hs' : s = '/' ∨ s = '\\' := by
    simp only [Manner.isSlash, Bool.or_eq_true, Bool.and_eq_true, beq_iff_eq] at hs
    exact hs.imp_right And.right
  obtain ⟨user, behind, hsu⟩ := splitUser_slash hs harea
  obtain ⟨host, after, hsh⟩ := splitHost_slash hs behind false
  obtain ⟨_, _, _, _, hu, hh, huser, hhost, hport, hread, hnamed⟩ := readAuthority_eq_ok.1 h
  rw [hsu] at hu
  cases hu
  rw [hsh] at hh
  cases hh
  obtain ⟨path, hrest, hpath⟩ := splitPort_slash hs' hport
  refine ⟨path, hrest, fun goesOn' tail' => readAuthority_eq_ok.2
    ⟨_, _, _, _, hsu tail', hsh tail', ?_, ?_, hpath tail', hread, hnamed⟩⟩
  · have hempty (tail : List Char) : (behind ++ s :: tail).isEmpty = false := by
      cases behind <;> rfl
    rw [hempty] at huser ⊢
    rwa [head?_append_cons behind s tail' tail]
  · unfold readHost at hhost ⊢
    rwa [head?_append_cons after s tail' tail]

end

/-! ### Without a slash -/

section

variable {m : Manner}

theorem splitUser_margin (hz : IsMargin z) {cs : List Char}
    (hcs : ∀ c ∈ cs ++ [z], m.isSlash c = false) :
    ∃ user behind, splitUser m (cs ++ [z]) = (user, behind ++ [z]) ∧ behind ⊆ cs := by
  have hall : ∀ c ∈ cs ++ [z], (!m.isSlash c) = true := fun c hc => by rw [hcs c hc]; rfl
  have harea : splitSlash m (cs ++ [z]) = (cs ++ [z], []) := by
    rw [splitSlash, List.takeWhile_eq_self_iff.2 hall, List.dropWhile_eq_nil_iff.2 hall]
  have hat : z ≠ '@' := by
    rintro rfl
    exact (plain_of_margin hz).2.2.2 (by decide)
  have hbehind : ((cs ++ [z]).reverse.takeWhile (· ≠ '@')).reverse =
      (cs.reverse.takeWhile (· ≠ '@')).reverse ++ [z] := by
    rw [List.reverse_append, List.reverse_singleton, List.singleton_append,
      List.takeWhile_cons_of_pos (by simpa using hat), List.reverse_cons]
  unfold splitUser
  rw [harea]
  dsimp only
  rw [hbehind]
  split
  · refine ⟨_, _, congrArg _ (List.append_nil _), fun c hc => ?_⟩
    exact List.mem_reverse.1 (List.takeWhile_subset _ (List.mem_reverse.1 hc))
  · exact ⟨none, cs, rfl, List.Subset.refl cs⟩

theorem splitHost_margin (hz : IsMargin z) {cs : List Char}
    (hcs : ∀ c ∈ cs ++ [z], m.isSlash c = false) (bracket : Bool) :
    (∃ host, splitHost m bracket (cs ++ [z]) = (host ++ [z], [])) ∨
      ∃ host port, splitHost m bracket (cs ++ [z]) = (host, ':' :: port ++ [z]) ∧ port ⊆ cs := by
  induction cs generalizing bracket with
  | nil =>
    have hz' : ¬ (m.isSlash z = true ∨ (z = ':' ∧ ¬ bracket)) := by
      rw [hcs z (List.mem_singleton.2 rfl)]
      rintro (h | ⟨rfl, -⟩)
      · cases h
      · exact (plain_of_margin hz).2.2.2 (by decide)
    refine Or.inl ⟨[], ?_⟩
    rw [List.nil_append, splitHost, if_neg hz']
    rfl
  | cons c cs ih =>
    rw [List.cons_append, List.forall_mem_cons] at hcs
    by_cases hc : m.isSlash c = true ∨ (c = ':' ∧ ¬ bracket)
    · have hcolon := (hc.resolve_left fun h => by rw [hcs.1] at h; cases h).1
      subst hcolon
      exact Or.inr ⟨[], cs, if_pos hc, List.subset_cons_self _ _⟩
    · rw [List.cons_append, splitHost, if_neg hc]
      rcases ih hcs.2 (c == '[' || (bracket && c != ']')) with ⟨host, h⟩ | ⟨host, port, h, hport⟩
      · rw [h]
        exact Or.inl ⟨c :: host, rfl⟩
      · rw [h]
        exact Or.inr ⟨c :: host, port, rfl, List.subset_cons_of_subset c hport⟩

theorem readPort_margin (hz : IsMargin z) {cs : List Char}
    (hcs : ∀ c ∈ cs ++ [z], ¬ (c = '/' ∨ c = '\\')) (acc : Option Nat)
    (p : Option Nat × List Char) :
    readPort acc (cs ++ [z]) ≠ .ok p := by
  induction cs generalizing acc with
  | nil =>
    have hdigit : z.isDigit ≠ true := by
      rw [(plain_of_margin hz).2.1]
      exact Bool.false_ne_true
    rw [List.nil_append, readPort, if_neg hdigit, if_neg (hcs z (List.mem_singleton.2 rfl))]
    exact fun h => nomatch h
  | cons c cs ih =>
    rw [List.cons_append, List.forall_mem_cons] at hcs
    rw [List.cons_append, readPort]
    split
    · dsimp only
      split
      · exact fun h => nomatch h
      · exact ih hcs.2 _
    · rw [if_neg hcs.1]
      exact fun h => nomatch h

/-- **No authority ends in a blank** or a control character. -/
theorem readAuthority_margin {scheme : String} {goesOn : Bool} {cs : List Char}
    (hz : IsMargin z) (hm : mannerOf scheme = .web)
    (hcs : ∀ c ∈ cs, Manner.web.isSlash c = false) (p : Authority × List Char) :
    readAuthority scheme goesOn (cs ++ [z]) ≠ .ok p := by
  intro h
  have hlast : Manner.web.isSlash z = false := hz.of_points (by decide +kernel)
  have hall {cs' : List Char} (hsub : cs' ⊆ cs) : ∀ c ∈ cs' ++ [z], Manner.web.isSlash c = false :=
    List.forall_mem_append.2 ⟨fun c hc => hcs c (hsub hc), List.forall_mem_singleton.2 hlast⟩
  obtain ⟨_, _, host, after, hu, hh, -, hhost, hport, -, -⟩ := readAuthority_eq_ok.1 h
  rw [hm] at hu hh hhost
  obtain ⟨user, behind, hsu, hbehind⟩ := splitUser_margin hz (hall (List.Subset.refl cs))
  rw [hsu] at hu
  cases hu
  rcases splitHost_margin hz (hall hbehind) false with ⟨host', hsh⟩ | ⟨host', port, hsh, hsub⟩
  · -- The host ends so.
    rw [hsh] at hh
    cases hh
    unfold readHost at hhost
    rw [if_neg (by simp)] at hhost
    cases hof : Host.ofText true (host' ++ [z]) with
    | error err =>
      rw [show Manner.web.special = true from rfl, hof] at hhost
      cases hhost
    | ok found => exact Host.ofText_margin hz host' found hof
  · -- The port does.
    rw [hsh] at hh
    cases hh
    obtain ⟨n, hn, -⟩ := splitPort_eq_ok.1 hport
    refine readPort_margin hz (fun c hc hslash => ?_) none _ hn
    have hc' := hall (List.Subset.trans hsub hbehind) c hc
    rcases hslash with rfl | rfl <;> cases hc'

end

/-- **What stands behind a text is no part of its authority**, if it is blanks and control
characters: it is left behind the authority. -/
theorem readAuthority_append {scheme : String} {goesOn : Bool} {cs t rest : List Char}
    {a : Authority} (hm : mannerOf scheme = .web) (ht : ∀ z ∈ t, IsMargin z)
    (h : readAuthority scheme goesOn (cs ++ t) = .ok (a, rest)) :
    ∃ rest', rest = rest' ++ t ∧ readAuthority scheme goesOn cs = .ok (a, rest') := by
  have hcs := List.takeWhile_append_dropWhile (p := (!Manner.web.isSlash ·)) (l := cs)
  have harea : ∀ c ∈ cs.takeWhile (!Manner.web.isSlash ·), Manner.web.isSlash c = false :=
    fun c hc => by simpa using List.mem_takeWhile_imp hc
  cases hd : cs.dropWhile (!Manner.web.isSlash ·) with
  | cons s tail =>
    have hs : Manner.web.isSlash s = true := by
      have := List.head?_dropWhile_not (!Manner.web.isSlash ·) cs
      rw [hd] at this
      simpa using this
    rw [hd] at hcs
    generalize cs.takeWhile (!Manner.web.isSlash ·) = area at hcs harea
    subst hcs
    rw [← hm] at hs harea
    rw [List.append_assoc, List.cons_append] at h
    obtain ⟨after, rfl, hafter⟩ := readAuthority_slash hs harea h
    exact ⟨after ++ s :: tail, by simp, hafter goesOn tail⟩
  | nil =>
    rw [hd, List.append_nil] at hcs
    rw [hcs] at harea
    rcases List.eq_nil_or_concat t with rfl | ⟨t, z, rfl⟩
    · rw [List.append_nil] at h
      exact ⟨rest, (List.append_nil rest).symm, h⟩
    · -- All of the text would be the authority.
      rw [List.concat_eq_append] at ht h
      rw [← List.append_assoc] at h
      refine absurd h (readAuthority_margin (ht z (by simp)) hm ?_ _)
      refine List.forall_mem_append.2 ⟨harea, fun c hc => ?_⟩
      exact (ht c (List.mem_append_left _ hc)).of_points (by decide +kernel)

end Teller.Url
