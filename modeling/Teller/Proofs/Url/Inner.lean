import Teller.Proofs.Text.Infix
import Teller.Proofs.Url.Segment

/-!
# What ends no part of a URL

Each part of a URL of the web ends in front of a mark: a slash, a question mark or a hash sign. What
an authority is written with holds none of them, nor spaces and control characters, whatever text it
was read from: escapes keep them out of users, and hosts are refused that have them. The same is so
for settled segments.

* `isInner`: the characters that end no part.
* `Domain.inner_ascii?`, `Host.inner_ofText`: domains and hosts have no others.
* `inner_readAuthority`: nor have authorities; `Settled.inner`: nor have settled segments.
-/

namespace Teller

namespace Url

/-- A character that ends no part of a URL of the web: no space and no control character, no slash
of either kind, no question mark and no hash sign. -/
def isInner (c : Char) : Bool := 0x20 < c.toNat && !(['/', '\\', '?', '#'].contains c)

theorem isInner_iff {c : Char} :
    isInner c = true ↔ 0x20 < c.toNat ∧ c ≠ '/' ∧ c ≠ '\\' ∧ c ≠ '?' ∧ c ≠ '#' := by
  simp [isInner]

theorem not_isSlash_of_isInner {c : Char} (h : isInner c = true) :
    Manner.web.isSlash c = false := by
  obtain ⟨-, hslash, hback, -⟩ := isInner_iff.1 h
  simp [Manner.isSlash, hslash, hback]

end Url

/-! ## Domains -/

namespace Domain

open Url (isInner)

variable {c : Char} {cs domain : List Char}

theorem isInner_of_not_isForbidden (h : isForbidden c = false) : isInner c = true := by
  simp only [isForbidden, Bool.or_eq_false_iff, decide_eq_false_iff_not] at h
  obtain ⟨⟨hlow, -⟩, hmarks⟩ := h
  rw [isInner, Bool.and_eq_true, decide_eq_true_eq, Bool.not_eq_true']
  refine ⟨by omega, ?_⟩
  by_contra hmark
  rw [Bool.not_eq_false, List.contains_iff_mem] at hmark
  have hsub : ['/', '\\', '?', '#'] ⊆ "%#/:<>?@[\\]^|".toList := by decide
  rw [List.contains_iff_mem.2 (hsub hmark)] at hmarks
  cases hmarks

namespace Punycode

theorem inner_digits (k bias n : Nat) : ∀ c ∈ digits k bias n, isInner c = true := by
  have hdigit : ∀ d : Fin 36, isInner (digit d) = true := by decide
  fun_induction digits k bias n with
  | case1 k n t hn =>
    have ht : t ≤ 26 := threshold_le k bias
    exact List.forall_mem_singleton.2 (hdigit ⟨n, by omega⟩)
  | case2 k n t hn ih =>
    have ht : t ≤ 26 := threshold_le k bias
    have hlt : (n - t) % (base - t) < base - t := Nat.mod_lt _ (by unfold base; omega)
    exact List.forall_mem_cons.2 ⟨hdigit ⟨_, by unfold base at *; omega⟩, ih⟩

/-- Writing the letters of a code point adds digits at most. -/
theorem inner_pass (n : Nat) (s : Encoder) (h : ∀ c ∈ s.out, isInner c = true) :
    ∀ c ∈ (cs.foldl (Encoder.pass n) s).out, isInner c = true := by
  induction cs generalizing s with
  | nil => exact h
  | cons a cs ih =>
    refine ih _ ?_
    unfold Encoder.pass
    split
    · exact h
    · split
      · exact List.forall_mem_append.2 ⟨h, inner_digits _ _ _⟩
      · exact h

theorem inner_encodePoints (n : Nat) (s : Encoder) (ms : List Nat)
    (h : ∀ c ∈ s.out, isInner c = true) : ∀ c ∈ encodePoints cs n s ms, isInner c = true := by
  induction ms generalizing n s with
  | nil => exact h
  | cons m ms ih =>
    refine ih _ _ ?_
    exact inner_pass m ⟨_, s.bias, s.size, s.first, s.out⟩ h

/-- A label in ASCII has its own letters of ASCII, hyphens and digits. -/
theorem inner_encode (h : ∀ c ∈ cs, isInner c = true) : ∀ c ∈ encode cs, isInner c = true := by
  unfold encode
  refine inner_encodePoints _ _ _ ?_
  dsimp only
  split
  · exact fun c hc => absurd hc List.not_mem_nil
  · exact List.forall_mem_append.2
      ⟨fun c hc => h c (List.mem_filter.1 hc).1, List.forall_mem_singleton.2 (by decide)⟩

end Punycode

theorem inner_encoded? {out : List Char} (h : ∀ c ∈ cs, isInner c = true)
    (he : encoded? cs = some out) : ∀ c ∈ out, isInner c = true := by
  unfold encoded? at he
  split at he
  · cases he
    exact h
  · split at he
    · cases he
    · cases he
      have hmark : mark.all isInner = true := by decide
      exact List.forall_mem_append.2 ⟨List.all_eq_true.1 hmark, Punycode.inner_encode h⟩

/-- **No domain ends a part of a URL.** -/
theorem inner_ascii? (h : ascii? cs = some domain) : ∀ c ∈ domain, isInner c = true := by
  unfold ascii? at h
  obtain ⟨mapped, -, h⟩ := Option.bind_eq_some_iff.1 h
  obtain ⟨labels, -, h⟩ := Option.bind_eq_some_iff.1 h
  dsimp only at h
  split at h
  · cases h
  rename_i hlabels
  split at h
  · cases h
  obtain ⟨encoded, hencoded, h⟩ := Option.bind_eq_some_iff.1 h
  cases h
  refine Text.forall_mem_intercalate (List.forall_mem_singleton.2 (by decide)) fun out hout => ?_
  obtain ⟨label, hlabel, hencode⟩ := Text.exists_of_mem_mapM hencoded hout
  refine inner_encoded? (fun c hc => isInner_of_not_isForbidden ?_) hencode
  by_contra hforbidden
  exact hlabels (Or.inl (List.any_eq_true.2 ⟨label, hlabel,
    List.any_eq_true.2 ⟨c, hc, Bool.not_eq_false _ ▸ hforbidden⟩⟩))

end Domain

namespace Url

variable {cs : List Char} {host : Host}

/-! ## Hosts -/

theorem inner_digitChar {b n : Nat} (hb : b ≤ 16) (hn : n < b) : isInner (Nat.digitChar n) = true := by
  have hall : ∀ d : Fin 16, isInner (Nat.digitChar d) = true := by decide
  exact hall ⟨n, by omega⟩

theorem inner_toDigits {b : Nat} (hb : 1 < b) (hle : b ≤ 16) (n : Nat) :
    ∀ c ∈ Nat.toDigits b n, isInner c = true := by
  induction n using Nat.strongRecOn with
  | _ n ih =>
    by_cases hn : n < b
    · rw [Nat.toDigits_of_lt_base hn]
      exact List.forall_mem_singleton.2 (inner_digitChar hle hn)
    · rw [Nat.toDigits_of_base_le hb (by omega)]
      exact List.forall_mem_append.2 ⟨ih _ (Nat.div_lt_self (by omega) hb),
        List.forall_mem_singleton.2 (inner_digitChar hle (Nat.mod_lt _ (by omega)))⟩

theorem Ipv4.inner_text (n : Nat) : ∀ c ∈ Ipv4.text n, isInner c = true := by
  refine Text.forall_mem_intercalate (List.forall_mem_singleton.2 (by decide)) fun cs hcs => ?_
  obtain ⟨octet, -, rfl⟩ := List.mem_map.1 hcs
  exact inner_toDigits (by decide) (by decide) octet

theorem Ipv6.inner_join (ps : List Nat) : ∀ c ∈ Ipv6.join ps, isInner c = true := by
  refine Text.forall_mem_intercalate (List.forall_mem_singleton.2 (by decide)) fun cs hcs => ?_
  obtain ⟨piece, -, rfl⟩ := List.mem_map.1 hcs
  exact inner_toDigits (by decide) (by decide) piece

theorem Ipv6.inner_text (ps : List Nat) : ∀ c ∈ Ipv6.text ps, isInner c = true := by
  unfold Ipv6.text
  dsimp only
  split
  · have hgap : [':', ':'].all isInner = true := by decide
    exact List.forall_mem_append.2 ⟨List.forall_mem_append.2
      ⟨Ipv6.inner_join _, List.all_eq_true.1 hgap⟩, Ipv6.inner_join _⟩
  · exact Ipv6.inner_join ps

/-- What the host of a domain name is. -/
theorem Host.ofDomain_cases (h : Host.ofDomain cs = .ok host) :
    (∃ text domain, Domain.ascii? text = some domain ∧ domain ≠ [] ∧ host = .name domain) ∨
      ∃ address, host = .ipv4 address := by
  unfold Host.ofDomain at h
  cases hdomain : (Text.Utf8.decode? (unescape cs)).bind Domain.ascii? with
  | none =>
    rw [hdomain] at h
    cases h
  | some domain =>
    rw [hdomain] at h
    obtain ⟨text, -, htext⟩ := Option.bind_eq_some_iff.1 hdomain
    simp only [bind, Except.bind, pure, Except.pure, throw, throwThe, MonadExceptOf.throw] at h
    split at h
    · cases h
    rename_i hne
    split at h
    · split at h
      · cases h
        exact Or.inr ⟨_, rfl⟩
      · cases h
    · cases h
      exact Or.inl ⟨text, domain, htext, by simpa using hne, rfl⟩

/-- **A host has a text**, and that ends no part of a URL. -/
theorem Host.inner_ofText (h : Host.ofText true cs = .ok host) :
    host.text ≠ [] ∧ ∀ c ∈ host.text, isInner c = true := by
  unfold Host.ofText at h
  split at h
  · unfold Host.bracketed at h
    split at h
    · cases h
      exact ⟨List.cons_ne_nil _ _, List.forall_mem_append.2 ⟨List.forall_mem_cons.2
        ⟨by decide, Ipv6.inner_text _⟩, List.forall_mem_singleton.2 (by decide)⟩⟩
    · cases h
  · rcases Host.ofDomain_cases h with ⟨text, domain, hascii, hne, rfl⟩ | ⟨address, rfl⟩
    · exact ⟨hne, Domain.inner_ascii? hascii⟩
    · refine ⟨?_, Ipv4.inner_text address⟩
      show ['.'].intercalate (_ :: _ :: _) ≠ []
      rw [List.intercalate_cons_cons]
      simp

/-! ## Authorities -/

variable {set : EscapeSet} {scheme : String} {goesOn : Bool} {rest : List Char} {a : Authority}

/-- What stands unescaped is no space and none of the marks that are escaped. -/
theorem of_not_escapes {c : Char} (h : set.escapes c = false) :
    (' ' ∈ set.chars → 0x20 < c.toNat) ∧ ∀ d ∈ set.chars, c ≠ d := by
  obtain ⟨hlow, -, hnot⟩ := escapes_eq_false_iff.1 h
  refine ⟨fun hspace => ?_, fun d hd hc => hnot (hc ▸ hd)⟩
  have hc : c.toNat ≠ 0x20 := fun hc => hnot (by
    rw [← Char.ofNat_toNat c, hc]
    exact hspace)
  omega

theorem isInner_of_not_escapes {c : Char} (hset : [' ', '/', '\\', '?', '#'] ⊆ set.chars)
    (h : set.escapes c = false) : isInner c = true := by
  obtain ⟨hlow, hne⟩ := of_not_escapes h
  exact isInner_iff.2 ⟨hlow (hset (by decide)), hne _ (hset (by decide)), hne _ (hset (by decide)),
    hne _ (hset (by decide)), hne _ (hset (by decide))⟩

theorem inner_escapeMarks : ∀ c ∈ '%' :: (List.range 16).map Text.upperHex, isInner c = true :=
  List.all_eq_true.1 (by decide)

theorem inner_escapeWith (hset : [' ', '/', '\\', '?', '#'] ⊆ set.chars) (cs : List Char) :
    ∀ c ∈ escapeWith set cs, isInner c = true := by
  intro c hc
  rcases mem_escapeWith hc with ⟨-, hc⟩ | hc
  · exact isInner_of_not_escapes hset hc
  · exact inner_escapeMarks c hc

theorem inner_readUser (user : List Char) :
    (∀ c ∈ (readUser user).1, isInner c = true) ∧
      ∀ p ∈ (readUser user).2, ∀ c ∈ p, isInner c = true := by
  have hset : [' ', '/', '\\', '?', '#'] ⊆ EscapeSet.userinfo.chars := by decide
  unfold readUser
  generalize splitMark ':' user = parts
  obtain ⟨name, password⟩ := parts
  refine ⟨inner_escapeWith hset name, ?_⟩
  dsimp only
  split
  · exact fun _ h => nomatch h
  · intro p hp
    cases hp
    exact inner_escapeWith hset _
  · exact fun _ h => nomatch h

/-- On the web, a host is read from its text. -/
theorem readHost_web {found : Option Host} (h : readHost .web cs rest = .ok found) :
    ∃ host, Host.ofText true cs = .ok host ∧ found = some host := by
  unfold readHost at h
  split at h
  · have hspecial : Manner.web.special = true ∨ rest.head? = some ':' := Or.inl rfl
    rw [if_pos hspecial] at h
    cases h
  · cases hhost : Host.ofText Manner.web.special cs with
    | error err =>
      rw [hhost] at h
      cases h
    | ok host =>
      rw [hhost] at h
      cases h
      exact ⟨host, hhost, rfl⟩

/-- **An authority has a text**, and that ends no part of a URL. -/
theorem inner_readAuthority (hm : mannerOf scheme = .web)
    (h : readAuthority scheme goesOn cs = .ok (a, rest)) :
    a.text ≠ [] ∧ ∀ c ∈ a.text, isInner c = true := by
  obtain ⟨user, behind, hostText, after, -, -, -, hhost, -, hread, -⟩ := readAuthority_eq_ok.1 h
  obtain ⟨hname, hpassword⟩ := inner_readUser (user.getD [])
  rw [← hread] at hname hpassword
  rw [hm] at hhost
  obtain ⟨host, hhost, hfound⟩ := readHost_web hhost
  obtain ⟨hne, hhost⟩ := Host.inner_ofText hhost
  have huser : ∀ c ∈ a.userText, isInner c = true := by
    have hcolon : isInner ':' = true := by decide
    have hat : isInner '@' = true := by decide
    unfold Authority.userText
    split
    · exact fun _ h => nomatch h
    · exact List.forall_mem_append.2 ⟨hname, List.forall_mem_singleton.2 hat⟩
    · rename_i password hpass
      refine List.forall_mem_append.2 ⟨List.forall_mem_append.2
        ⟨hname, List.forall_mem_cons.2 ⟨hcolon, ?_⟩⟩, List.forall_mem_singleton.2 hat⟩
      exact hpassword _ hpass
  have hhostText : a.hostText ≠ [] ∧ ∀ c ∈ a.hostText, isInner c = true := by
    unfold Authority.hostText
    rw [hfound]
    refine ⟨fun h => hne (List.append_eq_nil_iff.1 h).1, List.forall_mem_append.2 ⟨hhost, ?_⟩⟩
    split
    · exact List.forall_mem_cons.2 ⟨by decide, inner_toDigits (by decide) (by decide) _⟩
    · exact fun _ h => nomatch h
  refine ⟨fun h => hhostText.1 (List.append_eq_nil_iff.1 h).2, ?_⟩
  exact List.forall_mem_append.2 ⟨huser, hhostText.2⟩

/-! ## Segments and queries -/

/-- What stands in a text that has its escapes already. -/
theorem not_escapes_of_eq_self (h : escapeWith set cs = cs) :
    ∀ c ∈ cs, set.escapes c = false ∨ isInner c = true := by
  intro c hc
  rw [← h] at hc
  rcases mem_escapeWith hc with ⟨-, hc⟩ | hc
  · exact .inl hc
  · exact .inr (inner_escapeMarks c hc)

/-- A settled segment ends no part of a URL. -/
theorem Settled.inner {segment : List Char} (h : Settled segment) :
    ∀ c ∈ segment, isInner c = true := by
  intro c hc
  rcases not_escapes_of_eq_self h.escaped c hc with hescapes | hinner
  · obtain ⟨hlow, hne⟩ := of_not_escapes hescapes
    have hslash : ¬ (c = '/' ∨ c = '\\') := by
      have := h.whole c hc
      simpa [Manner.isSlash, Manner.special] using this
    rw [not_or] at hslash
    exact isInner_iff.2
      ⟨hlow (by decide), hslash.1, hslash.2, hne _ (by decide), hne _ (by decide)⟩
  · exact hinner

/-- A query in which nothing is left to escape ends no URL. -/
theorem of_mem_query {q : List Char} (h : escapeWith (.query true) q = q) :
    ∀ c ∈ q, 0x20 < c.toNat ∧ c ≠ '#' := by
  intro c hc
  rcases not_escapes_of_eq_self h c hc with hescapes | hinner
  · obtain ⟨hlow, hne⟩ := of_not_escapes hescapes
    exact ⟨hlow (by decide), hne _ (by decide)⟩
  · exact ⟨(isInner_iff.1 hinner).1, (isInner_iff.1 hinner).2.2.2.2⟩

end Url

end Teller
