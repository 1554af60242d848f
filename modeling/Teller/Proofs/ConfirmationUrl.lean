import Teller.Proofs.BehindBase

/-!
# Where confirmations go

Both confirmations go on behind the base's path, which stays as it is written: its escapes, its
empty segments, its dots. So bases that differ in the slashes at the end of their path, or in what
is dropped of them, lead to the same places.

* `Endpoints.page`: what both confirmations are; `path_page`, `chars_page`: how it is written.
* `Endpoints.Appends`: the URLs of both confirmations; `Endpoints.appends_of_web`: they are so below
  every base of the web.
* `Endpoints.url_of_sameButEnd`: bases that lead to the same places.
-/

namespace Teller

namespace Url

/-- Two URLs that differ in query, in fragment and in the slashes at the end of the path at most. -/
def SameButEnd (u v : Url) : Prop :=
  u.scheme = v.scheme ∧ u.authority = v.authority ∧
    ∃ stem m n, u.path.text = stem ++ List.replicate m '/' ∧
      v.path.text = stem ++ List.replicate n '/'

end Url

namespace Endpoints

variable {s : String} {c : ConfirmationPath} {e : Endpoints}

/-- **The URLs of both confirmations**, below a base that is read as the URL `u`. -/
structure Appends (e : Endpoints) (u : Url) : Prop where
  /-- Query and fragment of the URL are dropped, … -/
  base : e.base = u.bare
  /-- … and of its path nothing but slashes at the end. -/
  stem : ∃ n, u.path.text = e.stem ++ List.replicate n '/'
  stem_end : e.stem.getLast? ≠ some '/'
  /-- A TAN is confirmed behind what is left. All of that stays as it is written. -/
  tan : e.tanConfirmation.chars =
    u.frontText ++ e.stem ++ (e.confirmation.text ++ "/").toList
  tan_path : e.tanConfirmation.path.text = e.stem ++ (e.confirmation.text ++ "/").toList
  /-- So is a consent decided. -/
  consent : ∀ d, (e.consent d).chars =
    u.frontText ++ e.stem ++ (e.confirmation.text ++ "/consent?decision=" ++ d.word).toList
  consent_path : ∀ d, (e.consent d).path.text =
    e.stem ++ (e.confirmation.text ++ "/consent").toList
  /-- There is no fragment, and no other query than the decision. -/
  tan_marks : Url.partMarks e.tanConfirmation.chars = []
  consent_marks : ∀ d, Url.partMarks (e.consent d).chars = ['?']
  /-- Where the base is read back from its text, so are these URLs. -/
  reread : Url.ofText e.base.text = .ok e.base →
    Url.ofText e.tanConfirmation.text = .ok e.tanConfirmation ∧
      ∀ d, Url.ofText (e.consent d).text = .ok (e.consent d)

/-- The segments of the pages that confirm. -/
theorem exists_settled_confirmation (c : ConfirmationPath) :
    ∃ front, c.text.toList = Url.segmentsText front ∧ ∀ segment ∈ front, Url.Settled segment := by
  cases c with
  | payment => exact ⟨["payment".toList, "confirmation".toList], by decide, by decide⟩
  | view => exact ⟨["view".toList, "payment".toList, "confirmation".toList], by decide, by decide⟩

/-- A page below those that confirm. -/
def page (e : Endpoints) (last : List Char) (query : Option (List Char)) : Url :=
  { e.below (e.confirmation.text.toList ++ '/' :: last) with query := query }

theorem tanConfirmation_eq_page (e : Endpoints) : e.tanConfirmation = e.page [] none := by
  unfold tanConfirmation page
  rw [String.toList_append, ← base_query e]
  rfl

theorem consent_eq_page (e : Endpoints) (d : Decision) :
    e.consent d = e.page "consent".toList (some ("decision=" ++ d.word).toList) := by
  unfold consent page
  rw [String.toList_append]
  rfl

section Pages

variable {last : List Char} {query : Option (List Char)}

/-- **The path of a page**: the base's, and one segment more behind those that confirm. -/
theorem path_page (h : ofText s c = .ok e)
    (hweb : e.base.scheme = "http" ∨ e.base.scheme = "https") (hlast : Url.Settled last)
    (query : Option (List Char)) :
    ∃ segments, (e.page last query).path = .rooted segments ∧ segments ≠ [] ∧
      (∀ segment ∈ segments, Url.Settled segment) ∧
      Url.segmentsText segments = e.stem ++ e.confirmation.text.toList ++ '/' :: last := by
  obtain ⟨front, hstem, hsettled, hbelow⟩ := path_below h hweb
  obtain ⟨pages, hpages, hsettled'⟩ := exists_settled_confirmation e.confirmation
  have hmore : ∀ segment ∈ pages ++ [last], Url.Settled segment :=
    List.forall_mem_append.2 ⟨hsettled', List.forall_mem_singleton.2 hlast⟩
  have hpath := hbelow (pages ++ [last]) (List.concat_ne_nil _ _) hmore
  rw [Url.segmentsText_concat, ← hpages] at hpath
  refine ⟨_, hpath, List.append_ne_nil_of_right_ne_nil _ (List.concat_ne_nil _ _),
    List.forall_mem_append.2 ⟨hsettled, hmore⟩, ?_⟩
  rw [← List.append_assoc, Url.segmentsText_concat, hstem, hpages]
  simp [Url.segmentsText]

theorem pathText_page (h : ofText s c = .ok e)
    (hweb : e.base.scheme = "http" ∨ e.base.scheme = "https") (hlast : Url.Settled last) :
    (e.page last query).path.text = e.stem ++ e.confirmation.text.toList ++ '/' :: last := by
  obtain ⟨segments, hpath, -, -, htext⟩ := path_page h hweb hlast query
  rw [hpath]
  exact htext

theorem chars_page (h : ofText s c = .ok e)
    (hweb : e.base.scheme = "http" ∨ e.base.scheme = "https") (hlast : Url.Settled last) :
    (e.page last query).chars = e.base.frontText ++ e.stem ++
      (e.confirmation.text.toList ++ '/' :: last ++ Url.markedText '?' query) := by
  rw [chars_on_server h hweb (u := e.page last query) rfl rfl e.base_fragment,
    pathText_page h hweb hlast]
  simp [page]

theorem orderly_page (h : ofText s c = .ok e)
    (hweb : e.base.scheme = "http" ∨ e.base.scheme = "https") (hlast : Url.Settled last)
    (hquery : ∀ q ∈ query, Url.escapeWith (.query true) q = q) : (e.page last query).Orderly := by
  obtain ⟨segments, hpath, hne, hsettled, -⟩ := path_page h hweb hlast query
  exact orderly_on_server h hweb rfl rfl hpath hne hsettled hquery e.base_fragment

end Pages

/-- What is dropped of the path of a base. -/
theorem exists_stem (e : Endpoints) :
    (∃ n, e.base.path.text = e.stem ++ List.replicate n '/') ∧ e.stem.getLast? ≠ some '/' := by
  have hstem : e.stem = e.base.path.text.rdropWhile (· == '/') := rfl
  have hend : e.base.path.text.rtakeWhile (· == '/') =
      List.replicate (e.base.path.text.rtakeWhile (· == '/')).length '/' :=
    List.eq_replicate_of_mem fun c hc => by simpa using List.mem_rtakeWhile_imp hc
  constructor
  · refine ⟨(e.base.path.text.rtakeWhile (· == '/')).length, ?_⟩
    rw [hstem, ← hend]
    exact List.rdropWhile_append_rtakeWhile.symm
  · intro hlast
    have hne : e.stem ≠ [] := by
      intro hnil
      rw [hnil] at hlast
      cases hlast
    rw [List.getLast?_eq_some_getLast hne] at hlast
    refine List.rdropWhile_last_not (· == '/') e.base.path.text hne (beq_iff_eq.2 ?_)
    exact Option.some.inj hlast

/-- Slashes at the end of the path do not matter. -/
theorem stem_of_text {cs : List Char} {n : Nat}
    (h : e.base.path.text = cs ++ List.replicate n '/') : e.stem = cs.rdropWhile (· == '/') := by
  show e.base.path.text.rdropWhile (· == '/') = _
  rw [h]
  clear h
  induction n with
  | zero => rw [List.replicate_zero, List.append_nil]
  | succ n ih =>
    rw [List.replicate_succ', ← List.append_assoc, List.rdropWhile_concat_pos _ _ _ rfl, ih]

/-- **Bases that differ at the end** alone lead to the same places. -/
theorem url_of_sameButEnd {e' : Endpoints} (h : e.base.SameButEnd e'.base)
    (hc : e.confirmation = e'.confirmation) (o : Order) : o.url e = o.url e' := by
  obtain ⟨hscheme, hauthority, cs, m, n, hm, hn⟩ := h
  have hstem : e.stem = e'.stem := (stem_of_text hm).trans (stem_of_text hn).symm
  have hbelow (path : List Char) : e.below path = e'.below path := by
    calc e.below path = ⟨e.base.scheme, e.base.authority, .read (Url.mannerOf e.base.scheme)
          (e.stem ++ path), e.base.query, e.base.fragment⟩ := rfl
      _ = ⟨e'.base.scheme, e'.base.authority, .read (Url.mannerOf e'.base.scheme)
          (e'.stem ++ path), e'.base.query, e'.base.fragment⟩ := by
        rw [hscheme, hauthority, hstem, base_query, base_query, base_fragment, base_fragment]
      _ = e'.below path := rfl
  cases o with
  | tanConfirmation record =>
    simp only [Order.url, tanConfirmation]
    rw [hbelow, hc]
  | consent record d =>
    simp only [Order.url, consent]
    rw [hbelow, hc]
  | singlePayments record =>
    simp only [Order.url, singlePayment]
    rw [hbelow]

/-- **Where confirmations go** below a base of the web. -/
theorem appends_of_base (h : ofText s c = .ok e)
    (hweb : e.base.scheme = "http" ∨ e.base.scheme = "https") {u : Url} (hbase : e.base = u.bare) :
    e.Appends u := by
  obtain ⟨hslashes, hend⟩ := e.exists_stem
  have hfront : u.frontText = e.base.frontText := by
    rw [hbase]
    rfl
  have hpath : u.path = e.base.path := by
    rw [hbase]
    rfl
  -- Behind the pages that confirm stands an empty segment, or the one of the decision.
  have hconsent : Url.Settled "consent".toList := by decide
  have htanOrderly : (e.page [] none).Orderly := orderly_page h hweb Url.settled_nil nofun
  have hconsentOrderly (d : Decision) :
      (e.page "consent".toList (some ("decision=" ++ d.word).toList)).Orderly := by
    refine orderly_page h hweb hconsent ?_
    rintro _ ⟨⟩
    cases d <;> decide
  refine ⟨hbase, hpath ▸ hslashes, hend, ?_, ?_, fun d => ?_, fun d => ?_, ?_, fun d => ?_,
    fun hread => ⟨?_, fun d => ?_⟩⟩
  · rw [tanConfirmation_eq_page, chars_page h hweb Url.settled_nil, hfront]
    simp [Url.markedText]
  · rw [tanConfirmation_eq_page, pathText_page h hweb Url.settled_nil]
    simp
  · rw [consent_eq_page, chars_page h hweb hconsent, hfront]
    simp [Url.markedText]
  · rw [consent_eq_page, pathText_page h hweb hconsent]
    simp
  · rw [tanConfirmation_eq_page, htanOrderly.partMarks_chars]
    rfl
  · rw [consent_eq_page, (hconsentOrderly d).partMarks_chars]
    show Url.partMarks ('?' :: ("decision=" ++ d.word).toList) = ['?']
    cases d <;> decide
  · rw [tanConfirmation_eq_page]
    exact (orderly_base h hweb).ofText_text htanOrderly rfl rfl hread
  · rw [consent_eq_page]
    exact (orderly_base h hweb).ofText_text (hconsentOrderly d) rfl rfl hread

/-- **Confirmations are asked for behind the base**, whose path stays as it is written, and bases
that differ in query, in fragment and in the slashes at the end of the path lead to the same
places. -/
theorem appends_of_web (h : ofText s c = .ok e)
    (hweb : e.base.scheme = "http" ∨ e.base.scheme = "https") :
    e.confirmation = c ∧ ∃ u, Url.ofText (Text.trim s) = .ok u ∧ e.Appends u ∧
      ∀ s' e' u', ofText s' c = .ok e' → Url.ofText (Text.trim s') = .ok u' → u.SameButEnd u' →
        ∀ o : Order, o.url e' = o.url e := by
  obtain ⟨u, hu, -, hbase, hconfirmation⟩ := ofText_web_iff.1 ⟨h, Url.manner_of_scheme hweb⟩
  refine ⟨hconfirmation, u, hu, appends_of_base h hweb hbase, fun s' e' u' h' hu' hsame o => ?_⟩
  obtain ⟨hbase', hconfirmation'⟩ : e'.base = u'.bare ∧ e'.confirmation = c := by
    unfold ofText at h'
    rw [hu'] at h'
    dsimp only at h'
    split at h'
    · cases h'
      exact ⟨rfl, rfl⟩
    · cases h'
  refine (url_of_sameButEnd ?_ (hconfirmation.trans hconfirmation'.symm) o).symm
  rw [hbase, hbase']
  exact hsame

/-- Two bases that differ at the end alone, with an escape, an empty segment and a dot. -/
theorem appends_within_bank :
    ∃ e e', ofText "https://bank.local/a%2Fb//c./" .view = .ok e ∧
      ofText "https://bank.local/a%2Fb//c.?x#y" .view = .ok e' ∧
      (∃ u, Url.ofText (Text.trim "https://bank.local/a%2Fb//c./") = .ok u ∧ e.Appends u) ∧
      ∀ o : Order, o.url e' = o.url e := by
  have hu : Url.ofText (Text.trim "https://bank.local/a%2Fb//c./") =
      .ok ⟨"https", some ⟨[], none, some (.name "bank.local".toList), none⟩,
        .rooted ["a%2Fb".toList, [], "c.".toList, []], none, none⟩ := by decide +kernel
  have hu' : Url.ofText (Text.trim "https://bank.local/a%2Fb//c.?x#y") =
      .ok ⟨"https", some ⟨[], none, some (.name "bank.local".toList), none⟩,
        .rooted ["a%2Fb".toList, [], "c.".toList], some ['x'], some ['y']⟩ := by decide +kernel
  obtain ⟨he, -⟩ : ofText "https://bank.local/a%2Fb//c./" .view = .ok ⟨_, .view, rfl, rfl⟩ ∧ _ :=
    ofText_web_iff.2 ⟨_, hu, by decide, rfl, rfl⟩
  obtain ⟨he', -⟩ :
      ofText "https://bank.local/a%2Fb//c.?x#y" .view = .ok ⟨_, .view, rfl, rfl⟩ ∧ _ :=
    ofText_web_iff.2 ⟨_, hu', by decide, rfl, rfl⟩
  obtain ⟨-, u, hread, happends, hsame⟩ := appends_of_web he (Or.inr rfl)
  cases hread.symm.trans hu
  exact ⟨_, _, he, he', ⟨_, hread, happends⟩, hsame _ _ _ he' hu'
    ⟨rfl, rfl, "/a%2Fb//c.".toList, 1, 0, by decide, by decide⟩⟩

end Endpoints

end Teller
