import Teller.Proofs.Endpoints
import Teller.Proofs.Settings.Rule
import Teller.Proofs.Url.Trim

/-!
# Settings without problems

Settings are checked once, before anything is sent. Where nothing is wrong with them, their base can
be used for every call: the base is read the way it was checked, apart from blanks around it.

* `Usable`: what calls need of endpoints.
* `Settings.usable_of_problems`: settings without problems give such endpoints.
-/

namespace Teller

/-- The characters of a host that keep requests from it. -/
def Url.Host.oddMarks : List Char := ['"', '`', '\x7b', '\x7d']

/-- **What calls need**, where the base URL was checked as `base`. -/
structure Usable (s : Settings) (base : Url) (e : Endpoints) : Prop where
  ready : Endpoints.ofSettings s = .ok (e, [e.ready])
  query : e.base.query = none
  fragment : e.base.fragment = none
  /-- The URLs of all calls are on the web, … -/
  web : ∀ o : Order, (o.url e).scheme = "http" ∨ (o.url e).scheme = "https"
  /-- … on the server that was checked, … -/
  server : ∀ o : Order, (o.url e).SameServer base
  /-- … and have a host. -/
  host : ∀ o : Order, ∃ host, (o.url e).host? = some host
  /-- What keeps a request from being sent is the spelling of that host alone. -/
  sent : ∀ o : Order, (∃ r, o.request e = .ok r) ∨
    ∃ host, (o.url e).host? = some host ∧ ∃ c ∈ host.text, c ∈ Url.Host.oddMarks

namespace Order

variable {o : Order} {e : Endpoints}

/-- A host that can stand in no request is spelled so. -/
theorem request_or_oddMarks {host : Url.Host} (hw : Http.isWeb (o.url e) = true)
    (hhost : (o.url e).host? = some host) :
    (∃ r, o.request e = .ok r) ∨ ∃ c ∈ host.text, c ∈ Url.Host.oddMarks := by
  cases hplain : Http.hasPlainHost (o.url e) with
  | true => exact Or.inl (request_ok_iff.2 ⟨hw, hplain⟩)
  | false =>
    unfold Http.hasPlainHost at hplain
    rw [hhost] at hplain
    obtain ⟨c, hc, hodd⟩ := List.all_eq_false.1 hplain
    rw [Bool.not_eq_true', Bool.not_eq_false] at hodd
    exact Or.inr ⟨c, hc, List.contains_iff_mem.1 hodd⟩

end Order

namespace Settings

variable {s : Settings}

/-- **Settings without problems can be used** for every call, whatever blanks are around their base
URL. -/
theorem usable_of_problems (h : s.problems = []) :
    ∃ base e, Url.ofText s.backend.baseUrl = .ok base ∧ Usable s base e := by
  have hfault : baseUrlFault? s.backend.baseUrl = none := by
    cases hf : baseUrlFault? s.backend.baseUrl with
    | none => rfl
    | some fault =>
      unfold problems at h
      rw [hf] at h
      cases h
  obtain ⟨base, hbase, hscheme, hhost, hquery⟩ := baseUrlFault?_eq_none_iff.1 hfault
  have hweb : base.manner = .web := by
    unfold Url.manner
    rcases hscheme with h | h <;> rw [h] <;> decide
  obtain ⟨url, hurl, hurlScheme, hurlAuthority, hrooted⟩ := Url.ofText_trim hbase hweb hquery
  obtain ⟨e, he, hbare⟩ :
      ∃ e, Endpoints.ofText s.backend.baseUrl s.backend.confirmationPath = .ok e ∧
        e.base = url.bare := by
    unfold Endpoints.ofText
    rw [hurl]
    exact ⟨_, dif_pos hrooted, rfl⟩
  have hserver (o : Order) : (o.url e).SameServer base := by
    refine Url.sameServer_of_authority ?_ ?_
    · rw [(o.url_front e).1, hbare]
      exact hurlScheme
    · rw [(o.url_front e).2, hbare]
      exact hurlAuthority
  have hfound (o : Order) : ∃ host, (o.url e).host? = some host := by
    rw [(hserver o).2.1]
    exact Option.isSome_iff_exists.1 hhost
  have hon (o : Order) : (o.url e).scheme = "http" ∨ (o.url e).scheme = "https" := by
    rw [(hserver o).1]
    exact hscheme
  refine ⟨base, e, hbase, ?_, ?_, ?_, hon, hserver, hfound, fun o => ?_⟩
  · unfold Endpoints.ofSettings
    rw [he]
    rfl
  · rw [hbare]
    rfl
  · rw [hbare]
    rfl
  · obtain ⟨host, hhost⟩ := hfound o
    have hw : Http.isWeb (o.url e) = true := by simpa [Http.isWeb] using hon o
    exact (Order.request_or_oddMarks hw hhost).imp_right fun hodd => ⟨host, hhost, hodd⟩

/-- A base URL with blanks around it. -/
def padded : Settings := { backend := { baseUrl := "\t http://bank.local:8080/api\u2003\u00a0" } }

theorem usable_padded :
    padded.problems = [] ∧
      ∃ base e, Url.ofText padded.backend.baseUrl = .ok base ∧ Usable padded base e :=
  ⟨by decide +kernel, usable_of_problems (by decide +kernel)⟩

end Settings

end Teller
