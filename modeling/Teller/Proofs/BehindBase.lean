import Teller.Proofs.Settings.Base
import Teller.Proofs.Url.Reread

/-!
# Behind a base

The URLs that calls go to are on the server of their base and go on behind its path, without the
slashes at its end. Adding to a path reads all of it again, but what is read once is settled.

* `path_below`: the path of a URL behind a base of the web.
* `orderly_on_server`, `chars_on_server`: URLs on the server of a base, and their text.
-/

namespace Teller.Endpoints

variable {s : String} {c : ConfirmationPath} {e : Endpoints}

/-- The path of a base of the web has settled segments, and so has what is left of it without the
slashes at its end. -/
theorem exists_settled_stem (h : ofText s c = .ok e)
    (hweb : e.base.scheme = "http" ∨ e.base.scheme = "https") :
    ∃ front, e.stem = Url.segmentsText front ∧ ∀ segment ∈ front, Url.Settled segment := by
  obtain ⟨v, hv, hvweb, hbase, -⟩ := ofText_web_iff.1 ⟨h, Url.manner_of_scheme hweb⟩
  obtain ⟨_, _, _, rest, -, -, -, rfl⟩ := Url.ofText_web_iff.1 ⟨hv, hvweb⟩
  obtain ⟨segments, hread, -, hsettled⟩ := Url.exists_settled_of_read rest
  obtain ⟨front, hfront, hsettled⟩ := Url.exists_settled_rdropWhile hsettled
  refine ⟨front, ?_, hsettled⟩
  rw [← hfront, stem, hbase]
  show ((Url.Path.read .web rest).text.reverse.dropWhile _).reverse = _
  rw [hread]
  rfl

/-- **Behind a base** of the web, settled segments go on behind those of the base. -/
theorem path_below (h : ofText s c = .ok e)
    (hweb : e.base.scheme = "http" ∨ e.base.scheme = "https") :
    ∃ front, e.stem = Url.segmentsText front ∧ (∀ segment ∈ front, Url.Settled segment) ∧
      ∀ more, more ≠ [] → (∀ segment ∈ more, Url.Settled segment) →
        (e.below (Url.segmentsText more)).path = .rooted (front ++ more) := by
  obtain ⟨front, hstem, hsettled⟩ := exists_settled_stem h hweb
  refine ⟨front, hstem, hsettled, fun more hne hmore => ?_⟩
  have happend : Url.segmentsText front ++ Url.segmentsText more =
      Url.segmentsText (front ++ more) := List.flatMap_append.symm
  show Url.Path.read e.base.manner (e.stem ++ Url.segmentsText more) = _
  rw [Url.manner_of_scheme hweb, hstem, happend]
  exact Url.read_segmentsText (List.append_ne_nil_of_right_ne_nil _ hne)
    (List.forall_mem_append.2 ⟨hsettled, hmore⟩)

/-- The text of a base of the web falls into its parts. -/
theorem orderly_base (h : ofText s c = .ok e)
    (hweb : e.base.scheme = "http" ∨ e.base.scheme = "https") : e.base.Orderly := by
  obtain ⟨v, hv, hvweb, hbase, -⟩ := ofText_web_iff.1 ⟨h, Url.manner_of_scheme hweb⟩
  rw [hbase] at hweb ⊢
  exact Url.orderly_of_ofText hv hweb hvweb

/-- So does that of a URL on its server, if the path is settled. -/
theorem orderly_on_server {u : Url} (h : ofText s c = .ok e)
    (hweb : e.base.scheme = "http" ∨ e.base.scheme = "https") (hscheme : u.scheme = e.base.scheme)
    (hauthority : u.authority = e.base.authority) {segments : List (List Char)}
    (hpath : u.path = .rooted segments) (hne : segments ≠ [])
    (hsettled : ∀ segment ∈ segments, Url.Settled segment)
    (hquery : ∀ q ∈ u.query, Url.escapeWith (.query true) q = q) (hfragment : u.fragment = none) :
    u.Orderly where
  scheme := by
    rw [hscheme]
    exact hweb
  authority := by
    rw [hauthority]
    exact (orderly_base h hweb).authority
  path := ⟨segments, hpath, hne, hsettled⟩
  query := hquery
  fragment := hfragment

/-- Its text begins as that of the base. -/
theorem frontText_on_server {u : Url} (h : ofText s c = .ok e)
    (hweb : e.base.scheme = "http" ∨ e.base.scheme = "https") (hscheme : u.scheme = e.base.scheme)
    (hauthority : u.authority = e.base.authority) : u.frontText = e.base.frontText := by
  obtain ⟨a, ha, -⟩ := (orderly_base h hweb).authority
  unfold Url.frontText
  rw [hauthority, hscheme, ha]

/-- Behind that stand its path and its query. -/
theorem chars_on_server {u : Url} (h : ofText s c = .ok e)
    (hweb : e.base.scheme = "http" ∨ e.base.scheme = "https") (hscheme : u.scheme = e.base.scheme)
    (hauthority : u.authority = e.base.authority) (hfragment : u.fragment = none) :
    u.chars = e.base.frontText ++ u.path.text ++ Url.markedText '?' u.query := by
  unfold Url.chars
  rw [frontText_on_server h hweb hscheme hauthority, hfragment]
  exact List.append_nil _

theorem base_query (e : Endpoints) : e.base.query = none := by
  rw [← e.base_bare]
  rfl

theorem base_fragment (e : Endpoints) : e.base.fragment = none := by
  rw [← e.base_bare]
  rfl

end Teller.Endpoints
