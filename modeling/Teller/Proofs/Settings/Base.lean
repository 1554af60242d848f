import Teller.Proofs.Endpoints
import Teller.Proofs.Settings.Rule
import Teller.Proofs.Url.Padding

/-!
# The base that is checked and the base that is used

The text of a base URL is read twice: once to check it, and once to send requests below it. The
second time it is trimmed before. Both readings agree, unless a blank beyond ASCII stands around the
text and no fragment takes it; then the text is refused although it could be used, or the base has
another path than the one that was checked.

* `TakenAsBase`: texts that can be used; `ReadAlike`: texts that are used as they are checked.
* `Endpoints.ofText_web_iff`: bases on the web.
* `checked_trim`: what trimming makes of a base that was checked.
* `readAlike_of_text`: which texts are read alike.
-/

namespace Teller

open Settings (baseUrlFault? baseUrlFault?_eq_none_iff)

/-- **A text can be used** as a base on the web, and nothing of it is dropped as a query. -/
def TakenAsBase (s : String) (c : ConfirmationPath) : Prop :=
  (∃ e, Endpoints.ofText s c = .ok e ∧ (e.base.scheme = "http" ∨ e.base.scheme = "https")) ∧
    ¬ Url.CarriesQuery s

/-- **A text is used as it is checked.** -/
structure ReadAlike (s : String) (c : ConfirmationPath) : Prop where
  /-- What can be used passes the check, and nothing else does. -/
  accepted : baseUrlFault? s = none ↔ TakenAsBase s c
  /-- Then the base is the URL that was checked, apart from its fragment. -/
  base : baseUrlFault? s = none → ∀ u e, Url.ofText s = .ok u → Endpoints.ofText s c = .ok e →
    e.base = u.withoutFragment

variable {s : String} {c : ConfirmationPath} {e : Endpoints} {u v : Url}

/-! ## Bases on the web -/

theorem Url.manner_of_scheme (h : u.scheme = "http" ∨ u.scheme = "https") : u.manner = .web := by
  unfold Url.manner
  rcases h with h | h
  · rw [h]
    decide
  · rw [h]
    decide

/-- **A base on the web** is the URL of the trimmed text, without query and fragment. -/
theorem Endpoints.ofText_web_iff :
    Endpoints.ofText s c = .ok e ∧ e.base.manner = .web ↔
      ∃ v, Url.ofText (Text.trim s) = .ok v ∧ v.manner = .web ∧ e.base = v.bare ∧
        e.confirmation = c := by
  unfold Endpoints.ofText
  cases hv : Url.ofText (Text.trim s) with
  | error cause =>
    constructor
    · rintro ⟨⟨⟩, -⟩
    · rintro ⟨_, ⟨⟩, -⟩
  | ok v =>
    dsimp only
    constructor
    · rintro ⟨h, hweb⟩
      split at h
      · cases h
        exact ⟨v, rfl, hweb, rfl, rfl⟩
      · cases h
    · rintro ⟨_, ⟨⟩, hweb, hbase, rfl⟩
      have hrooted := Url.isFlat_of_web hv hweb
      rw [dif_pos hrooted]
      obtain ⟨base, confirmation, _, _⟩ := e
      cases hbase
      exact ⟨rfl, hweb⟩

/-- What can be used can be read without the blanks around it. -/
theorem takenAsBase_iff :
    TakenAsBase s c ↔
      ∃ v, Url.ofText (Text.trim s) = .ok v ∧ (v.scheme = "http" ∨ v.scheme = "https") ∧
        v.query = none := by
  have hquery {v : Url} (hv : Url.ofText (Text.trim s) = .ok v) (hweb : v.manner = .web) :
      v.query = none ↔ ¬ Url.CarriesQuery s := by
    rw [← Option.not_isSome_iff_eq_none, Url.query_isSome_of_web hv hweb, Url.CarriesQuery,
      Url.CarriesQuery, Url.partMarks_trim]
  constructor
  · rintro ⟨⟨e, he, hscheme⟩, hnone⟩
    obtain ⟨v, hv, hweb, hbase, -⟩ :=
      Endpoints.ofText_web_iff.1 ⟨he, Url.manner_of_scheme hscheme⟩
    rw [hbase] at hscheme
    exact ⟨v, hv, hscheme, (hquery hv hweb).2 hnone⟩
  · rintro ⟨v, hv, hscheme, hnone⟩
    have hweb := Url.manner_of_scheme hscheme
    have hrooted := Url.isFlat_of_web hv hweb
    have he : Endpoints.ofText s c = .ok ⟨v.bare, c, hrooted, rfl⟩ ∧ v.bare.manner = .web :=
      Endpoints.ofText_web_iff.2 ⟨v, hv, hweb, rfl, rfl⟩
    exact ⟨⟨_, he.1, hscheme⟩, (hquery hv hweb).1 hnone⟩

/-! ## Both readings -/

/-- **What trimming makes of a base that was checked**: a URL with its scheme and its authority,
which is the same one if the blanks around it do not matter. -/
theorem checked_trim (hu : Url.ofText s = .ok u) (hbase : u.IsBase) :
    ∃ v, Url.ofText (Text.trim s) = .ok v ∧ v.scheme = u.scheme ∧ v.authority = u.authority ∧
      v.query = none ∧ (v.bare = u.withoutFragment ↔ Url.PaddedFreely s) := by
  have hweb := Url.manner_of_scheme hbase.1
  obtain ⟨v, rest, t, hv, hscheme, hauthority, hpath, hpath', ht, hnil⟩ :=
    Url.ofText_trim_read hu hweb hbase.2.2
  have hvweb : v.manner = .web := by
    unfold Url.manner
    rw [hscheme]
    exact hweb
  have hquery : v.query = none := by
    rw [← Option.not_isSome_iff_eq_none, Url.query_isSome_of_web hv hvweb, Url.CarriesQuery,
      Url.partMarks_trim, ← Url.CarriesQuery, ← Url.query_isSome_of_web hu hweb, hbase.2.2]
    exact Bool.false_ne_true
  refine ⟨v, hv, hscheme, hauthority, hquery, ?_, ?_⟩
  · -- The same path is read with and without what trimming takes away, so that is nothing.
    intro hsame
    have hread : Url.Path.read .web (rest ++ t) = Url.Path.read .web rest := by
      rw [← hpath, ← hpath']
      exact (congrArg Url.path hsame).symm
    obtain ⟨_, _, _, _, hread', -⟩ := Url.ofText_web_iff.1 ⟨hu, hweb⟩
    obtain ⟨t', -, hcleaned⟩ := Url.cleaned_trim_of_splitScheme? hread'
    refine ⟨⟨t', hcleaned.symm⟩, hnil ?_⟩
    exact (Url.Path.read_append_eq_iff ht rest).1 hread
  · intro hfree
    obtain ⟨w, hw, hsame⟩ := Url.ofText_of_trim hfree hv hvweb hquery
    cases hw.symm.trans hu
    rw [hsame]
    unfold Url.bare Url.withoutFragment
    rw [hquery]

/-- What passes the check can be used. -/
theorem takenAsBase_of_checked (h : baseUrlFault? s = none) : TakenAsBase s c := by
  obtain ⟨u, hu, hbase⟩ := baseUrlFault?_eq_none_iff.1 h
  obtain ⟨v, hv, hscheme, -, hquery, -⟩ := checked_trim hu hbase
  refine takenAsBase_iff.2 ⟨v, hv, ?_, hquery⟩
  rw [hscheme]
  exact hbase.1

/-- What can be used passes the check, if no blanks around it matter. -/
theorem checked_of_takenAsBase (h : TakenAsBase s c) (hfree : Url.PaddedFreely s) :
    baseUrlFault? s = none := by
  obtain ⟨v, hv, hscheme, hquery⟩ := takenAsBase_iff.1 h
  obtain ⟨u, hu, hsame⟩ :=
    Url.ofText_of_trim hfree hv (Url.manner_of_scheme hscheme) hquery
  have hscheme' : u.withoutFragment.scheme = "http" ∨ u.withoutFragment.scheme = "https" := by
    rw [hsame]
    exact hscheme
  have hquery' : u.withoutFragment.query = none := by
    rw [hsame]
    exact hquery
  have hhost := Url.host?_isSome_of_web hu (Url.manner_of_scheme hscheme')
  exact baseUrlFault?_eq_none_iff.2 ⟨u, hu, hscheme', hhost, hquery'⟩

/-- The base of a text that was checked. -/
theorem base_of_checked (hu : Url.ofText s = .ok u) (hbase : u.IsBase)
    (he : Endpoints.ofText s c = .ok e) :
    e.base.scheme = u.scheme ∧ e.base.authority = u.authority ∧
      (e.base = u.withoutFragment ↔ Url.PaddedFreely s) := by
  obtain ⟨v, hv, hscheme, hauthority, hquery, hsame⟩ := checked_trim hu hbase
  have heq : e.base = v.bare := by
    unfold Endpoints.ofText at he
    rw [hv] at he
    dsimp only at he
    split at he
    · cases he
      rfl
    · cases he
  rw [heq]
  exact ⟨hscheme, hauthority, hsame⟩

/-- **A base URL is used as it was checked** exactly if no blanks around its text matter, as none of
ASCII do. Whatever blanks there are, what passes the check can be used, on the server that was
checked. -/
theorem readAlike_of_text (s : String) (c : ConfirmationPath) :
    (ReadAlike s c ↔ (TakenAsBase s c → Url.PaddedFreely s)) ∧
      ((∀ z ∈ s.toList, Text.isBlank z = true → z.toNat ≤ 0x20) → ReadAlike s c) ∧
      (baseUrlFault? s = none → ∃ u e, Url.ofText s = .ok u ∧ Endpoints.ofText s c = .ok e ∧
        e.base.scheme = u.scheme ∧ e.base.authority = u.authority) := by
  -- Where no blanks matter, each reading gives the other one.
  have halike (hfree : TakenAsBase s c → Url.PaddedFreely s) : ReadAlike s c := by
    refine ⟨⟨takenAsBase_of_checked, fun h => checked_of_takenAsBase h (hfree h)⟩, ?_⟩
    intro h u e hu he
    obtain ⟨w, hw, hbase⟩ := baseUrlFault?_eq_none_iff.1 h
    cases hw.symm.trans hu
    exact (base_of_checked hu hbase he).2.2.2 (hfree (takenAsBase_of_checked h))
  refine ⟨⟨?_, halike⟩, ?_, ?_⟩
  · intro h htaken
    have hnone := h.accepted.2 htaken
    obtain ⟨u, hu, hbase⟩ := baseUrlFault?_eq_none_iff.1 hnone
    obtain ⟨⟨e, he, -⟩, -⟩ := htaken
    exact (base_of_checked hu hbase he).2.2.1 (h.base hnone u e hu he)
  · intro hascii
    exact halike fun _ => Url.paddedFreely_of_ascii hascii
  · intro h
    obtain ⟨u, hu, hbase⟩ := baseUrlFault?_eq_none_iff.1 h
    obtain ⟨⟨e, he, -⟩, -⟩ : TakenAsBase s c := takenAsBase_of_checked h
    obtain ⟨hscheme, hauthority, -⟩ := base_of_checked hu hbase he
    exact ⟨u, e, hu, he, hscheme, hauthority⟩

/-- A blank behind a base changes its path, and one in front of it keeps it from being used. -/
theorem not_readAlike_of_blank :
    ¬ ReadAlike "http://bank.local/\u00a0" .payment ∧
      ¬ ReadAlike "\u00a0http://bank.local" .payment := by
  constructor
  · intro h
    have hnone : baseUrlFault? "http://bank.local/\u00a0" = none := by decide +kernel
    have hu : Url.ofText "http://bank.local/\u00a0" =
        .ok { Endpoints.small.base with path := .rooted ["%C2%A0".toList] } := by decide +kernel
    have hv : Url.ofText (Text.trim "http://bank.local/\u00a0") = .ok Endpoints.small.base := by
      decide +kernel
    obtain ⟨he, -⟩ := Endpoints.ofText_web_iff.2 ⟨_, hv, by decide, rfl, rfl⟩
    have hsame := congrArg Url.path (h.base hnone _ _ hu he)
    exact absurd hsame (by decide)
  · intro h
    have hv : Url.ofText (Text.trim "\u00a0http://bank.local") = .ok Endpoints.small.base := by
      decide +kernel
    have hnone := h.accepted.2 (takenAsBase_iff.2 ⟨_, hv, Or.inl rfl, rfl⟩)
    have hfault : baseUrlFault? "\u00a0http://bank.local" = some (.unreadable .relative) := by
      decide +kernel
    rw [hnone] at hfault
    cases hfault

end Teller
