import Teller.Proofs.BehindBase

/-!
# Where a payment is

The id of a payment is a segment of its own behind the base's path, whatever it holds: what could
divide it is escaped. Only dots are taken for places, and tabs and line ends are left out as from
any text of a URL. So an id of one or two dots gets lost, and ids that differ in tabs and line ends
alone lead to one place.

* `IdPart`: what an id adds to the path of the base; `IdPart.text`, `IdPart.segments`: how it is
  written; `IdPart.settled_segments`: nothing of it divides the path.
* `Endpoints.Locates`: where the payment of an id is; `Endpoints.locates_of_web`: that is so below
  every base of the web.
* `Endpoints.ids_collide`: ids that get lost.
* `Endpoints.Confines`: what an id leaves as it is; `Endpoints.confines_of_web`: that is so below
  every base of the web.
-/

namespace Teller

/-- What an id adds to the path of the base. -/
inductive IdPart where
  /-- The page of all payments: the id is left out. -/
  | nothing
  /-- The place above that page. -/
  | above
  /-- A segment below that page. -/
  | segment (cs : List Char)
deriving DecidableEq, Repr

namespace IdPart

/-- The text behind the path of the base. -/
def text : IdPart → List Char
  | .nothing => "/payments".toList
  | .above => "/".toList
  | .segment cs => "/payments/".toList ++ Url.escapeWith (.pathSegment true) cs

/-- What an id adds. A lone dot that is left of it means the page of all payments, as a segment that
is empty; two dots mean the place above. -/
def of (id : String) : IdPart :=
  if id.toList = ['.'] ∨ id.toList = ['.', '.'] then .nothing
  else
    let kept := id.toList.filter (!Url.isSkipped ·)
    if kept = ['.', '.'] then .above
    else if kept = ['.'] then .segment []
    else .segment kept

/-- Whether an id is kept as it is. -/
def Keeps (id : String) : Prop :=
  id ≠ "." ∧ id ≠ ".." ∧ ∀ c ∈ id.toList, Url.isSkipped c = false

/-- A segment is kept whole. -/
theorem escapes_pathSegment :
    (Url.EscapeSet.pathSegment true).escapes '%' = true ∧
      (Url.EscapeSet.pathSegment true).escapes '.' = false ∧
      (Url.EscapeSet.pathSegment true).escapes '/' = true := by decide

/-- The segments behind those of the base. -/
def segments : IdPart → List (List Char)
  | .nothing => ["payments".toList]
  | .above => [[]]
  | .segment cs => ["payments".toList, Url.escapeWith (.pathSegment true) cs]

theorem payments_slash : "/payments/".toList = '/' :: "payments".toList ++ ['/'] := by decide

theorem segmentsText_segments (p : IdPart) : Url.segmentsText p.segments = p.text := by
  cases p with
  | nothing => decide
  | above => decide
  | segment cs =>
    show Url.segmentsText ["payments".toList, _] = "/payments/".toList ++ _
    rw [payments_slash]
    simp only [Url.segmentsText, List.flatMap_cons, List.flatMap_nil, List.append_nil,
      List.cons_append, List.append_assoc, List.nil_append]

theorem segments_ne_nil (p : IdPart) : p.segments ≠ [] := by
  cases p <;> exact List.cons_ne_nil _ _

theorem length_segments_le (p : IdPart) : p.segments.length ≤ 2 := by
  cases p with
  | nothing => exact Nat.le_succ 1
  | above => exact Nat.le_succ 1
  | segment cs => exact Nat.le_refl 2

/-- What an id adds is settled, whatever it holds. -/
theorem settled_segments (id : String) : ∀ segment ∈ (of id).segments, Url.Settled segment := by
  have hpayments : Url.Settled "payments".toList := by decide
  unfold of
  split
  · exact List.forall_mem_singleton.2 hpayments
  dsimp only
  split
  · exact List.forall_mem_singleton.2 Url.settled_nil
  rename_i hup
  have hsettled {cs : List Char} (h : ¬ (cs = ['.'] ∨ cs = ['.', '.'])) :
      ∀ segment ∈ (IdPart.segment cs).segments, Url.Settled segment :=
    List.forall_mem_cons.2 ⟨hpayments,
      List.forall_mem_singleton.2 (Url.settled_escapeWith_pathSegment h)⟩
  split
  · exact hsettled (by decide)
  · rename_i hdot
    exact hsettled (not_or.2 ⟨hdot, hup⟩)

theorem length_text (p : IdPart) :
    p.text.length =
      match p with
      | .nothing => 9
      | .above => 1
      | .segment cs => 10 + (Url.escapeWith (.pathSegment true) cs).length := by
  cases p with
  | nothing => rfl
  | above => rfl
  | segment cs => exact List.length_append

/-- What ids add is told apart by its text. -/
theorem text_injective : Function.Injective text := by
  intro p q h
  have hlength := congrArg List.length h
  rw [length_text, length_text] at hlength
  cases p <;> cases q
  case segment.segment cs ds =>
    rw [Url.escapeWith_injective escapes_pathSegment.1 (List.append_cancel_left h)]
  all_goals first
    | rfl
    | dsimp only at hlength
      omega

/-- An id is kept if it is no dots and nothing is left out of it. -/
theorem keeps_iff {id : String} :
    Keeps id ↔ ¬ (id.toList = ['.'] ∨ id.toList = ['.', '.']) ∧
      id.toList.filter (!Url.isSkipped ·) = id.toList := by
  have hdot : id.toList = ['.'] ↔ id = "." := @String.toList_inj id "."
  have hup : id.toList = ['.', '.'] ↔ id = ".." := @String.toList_inj id ".."
  unfold Keeps
  rw [hdot, hup, List.filter_eq_self, not_or, and_assoc]
  simp only [Bool.not_eq_true', ne_eq]

/-- **An id is a segment of its own** exactly if it is kept. -/
theorem of_eq_segment_iff {id : String} : of id = .segment id.toList ↔ Keeps id := by
  rw [keeps_iff]
  unfold of
  split
  · rename_i hdots
    simp [hdots]
  rename_i hdots
  rw [not_or] at hdots
  dsimp only
  split
  · rename_i hup
    simp [hup, Ne.symm hdots.2]
  split
  · rename_i hdot
    have hsome : id.toList ≠ [] := by
      intro hnil
      rw [hnil] at hdot
      cases hdot
    simp [hdot, Ne.symm hdots.1, Ne.symm hsome]
  · simp [hdots]

end IdPart

variable {s : String} {c : ConfirmationPath} {e : Endpoints}

namespace Endpoints

/-- **Where the payment of an id is.** -/
structure Locates (e : Endpoints) (id : String) : Prop where
  /-- Its URL goes on behind the base's path with what the id adds. -/
  chars : (e.singlePayment id).chars = e.base.frontText ++ e.stem ++ (IdPart.of id).text
  /-- So does its path. -/
  path : (e.singlePayment id).path.text = e.stem ++ (IdPart.of id).text
  /-- The id is read back from a segment of its own exactly if it is kept. -/
  whole : (∃ segment, (e.singlePayment id).path.text =
      e.stem ++ "/payments/".toList ++ segment ∧ '/' ∉ segment ∧
        Http.plainText? segment = some id.toList) ↔ IdPart.Keeps id
  /-- Another id has the same URL exactly if it adds the same. -/
  apart : ∀ id', (e.singlePayment id).text = (e.singlePayment id').text ↔
    IdPart.of id = IdPart.of id'

/-- What a segment adds to the page of all payments. -/
theorem pushSegment_payments (front : List (List Char)) (id : String) :
    Url.pushSegment .web (front ++ ["payments".toList]) id.toList =
      front ++ (IdPart.of id).segments := by
  obtain ⟨hpercent, hdot, -⟩ := IdPart.escapes_pathSegment
  have hbelow (segment : List Char) : front ++ ["payments".toList] ++ [segment] =
      front ++ ["payments".toList, segment] := by
    rw [List.append_assoc]
    rfl
  have hshorten : Url.shorten (front ++ ["payments".toList]) = front := by
    rw [Url.shorten, List.getLast?_concat, List.dropLast_concat]
    rfl
  have hne : front ++ ["payments".toList] ≠ [[]] := by
    intro h
    have hlast := congrArg List.getLast? h
    rw [List.getLast?_concat] at hlast
    cases hlast
  unfold IdPart.of
  by_cases hdots : id.toList = ['.'] ∨ id.toList = ['.', '.']
  · rw [Url.pushSegment, if_pos hdots, if_pos hdots]
    rfl
  rw [Url.pushSegment, if_neg hdots, if_neg hdots]
  simp only [if_neg hne]
  rw [show Url.Manner.web.special = true from rfl, Url.addLast_escapeWith hpercent hdot]
  split
  · rw [hshorten]
    rfl
  split
  · exact hbelow []
  · exact hbelow _

/-- **The path of a payment**: the base's, and what the id adds. -/
theorem path_singlePayment (h : ofText s c = .ok e)
    (hweb : e.base.scheme = "http" ∨ e.base.scheme = "https") :
    ∃ front, e.stem = Url.segmentsText front ∧ (∀ segment ∈ front, Url.Settled segment) ∧
      (e.below "/payments".toList).path = .rooted (front ++ ["payments".toList]) ∧
      ∀ id, (e.singlePayment id).path = .rooted (front ++ (IdPart.of id).segments) := by
  obtain ⟨front, hstem, hsettled, hbelow⟩ := path_below h hweb
  have hpage := hbelow ["payments".toList] (List.cons_ne_nil _ _) (by decide)
  refine ⟨front, hstem, hsettled, hpage, fun id => ?_⟩
  show (e.below (Url.segmentsText ["payments".toList])).path.push e.base.manner id.toList = _
  rw [hpage, Url.manner_of_scheme hweb, ← pushSegment_payments]
  rfl

theorem pathText_singlePayment (h : ofText s c = .ok e)
    (hweb : e.base.scheme = "http" ∨ e.base.scheme = "https") (id : String) :
    (e.singlePayment id).path.text = e.stem ++ (IdPart.of id).text := by
  obtain ⟨front, hstem, -, -, hpath⟩ := path_singlePayment h hweb
  rw [hpath, hstem, ← IdPart.segmentsText_segments]
  exact List.flatMap_append

/-- On the web, nothing but the path is other than the base's. -/
theorem chars_singlePayment (h : ofText s c = .ok e)
    (hweb : e.base.scheme = "http" ∨ e.base.scheme = "https") (id : String) :
    (e.singlePayment id).chars = e.base.frontText ++ (e.singlePayment id).path.text := by
  have hquery : (e.singlePayment id).query = none := e.base_query
  rw [chars_on_server (u := e.singlePayment id) h hweb rfl rfl e.base_fragment, hquery]
  exact List.append_nil _

/-- What is read back from the segment of an id. -/
theorem whole_iff (id : String) :
    (∃ segment, (IdPart.of id).text = "/payments/".toList ++ segment ∧ '/' ∉ segment ∧
      Http.plainText? segment = some id.toList) ↔ IdPart.Keeps id := by
  obtain ⟨hpercent, -, hslash⟩ := IdPart.escapes_pathSegment
  have hback (cs : List Char) :
      Http.plainText? (Url.escapeWith (.pathSegment true) cs) = some cs := by
    rw [Http.plainText?, Url.unescape_escapeWith hpercent, Text.Utf8.decode?_encode]
  rw [← IdPart.of_eq_segment_iff]
  constructor
  · rintro ⟨segment, htext, -, hplain⟩
    have hlength := congrArg List.length htext
    rw [IdPart.length_text, List.length_append] at hlength
    cases hpart : IdPart.of id with
    | nothing =>
      rw [hpart] at hlength
      exact absurd hlength (by simp; omega)
    | above =>
      rw [hpart] at hlength
      exact absurd hlength (by simp; omega)
    | segment cs =>
      rw [hpart] at htext
      rw [← List.append_cancel_left htext, hback] at hplain
      rw [Option.some_inj.1 hplain]
  · intro h
    refine ⟨Url.escapeWith (.pathSegment true) id.toList, ?_, ?_, hback id.toList⟩
    · rw [h]
      rfl
    · exact Url.not_mem_escapeWith hslash (by decide) _

/-- **Where payments are**, below every base of the web: an id is a segment of its own unless it is
dots or has tabs or line ends in it, and ids that add the same have one URL. -/
theorem locates_of_web (h : ofText s c = .ok e)
    (hweb : e.base.scheme = "http" ∨ e.base.scheme = "https") (id : String) : e.Locates id := by
  have hpath := pathText_singlePayment h hweb
  have hchars (id : String) :
      (e.singlePayment id).chars = e.base.frontText ++ e.stem ++ (IdPart.of id).text := by
    rw [chars_singlePayment h hweb, hpath, List.append_assoc]
  refine ⟨hchars id, hpath id, ?_, fun id' => ?_⟩
  · rw [← whole_iff]
    refine exists_congr fun segment => and_congr_left fun _ => ?_
    rw [hpath, List.append_assoc]
    exact List.append_right_inj _
  · rw [Url.text, Url.text, String.ofList_inj, hchars, hchars, List.append_right_inj]
    exact IdPart.text_injective.eq_iff

/-- A base with a path of its own, and an id with what would divide a path. -/
theorem locates_within_bank :
    ∃ e, ofText "https://bank.local/core//" .payment = .ok e ∧ e.Locates "a/b%2F" := by
  have hv : Url.ofText (Text.trim "https://bank.local/core//") =
      .ok ⟨"https", some ⟨[], none, some (.name "bank.local".toList), none⟩,
        .rooted ["core".toList, [], []], none, none⟩ := by decide +kernel
  obtain ⟨he, -⟩ : ofText "https://bank.local/core//" .payment = .ok ⟨_, .payment, rfl, rfl⟩ ∧ _ :=
    ofText_web_iff.2 ⟨_, hv, by decide, rfl, rfl⟩
  exact ⟨_, he, locates_of_web he (Or.inr rfl) _⟩

/-- **Ids get lost**: two that differ in a tab have one URL, dots are left out, and dots that a tab
divides lead above all payments. -/
theorem ids_collide :
    ofText "http://bank.local" .payment = .ok small ∧ "a\tb" ≠ "ab" ∧
      (small.singlePayment "a\tb").text = (small.singlePayment "ab").text ∧
      (small.singlePayment "..").path.text = "/payments".toList ∧
      (small.singlePayment ".\t.").path.text = "/".toList := by
  have hv : Url.ofText (Text.trim "http://bank.local") = .ok small.base := by decide +kernel
  obtain ⟨he, -⟩ := ofText_web_iff.2 ⟨_, hv, by decide, small.base_bare.symm, rfl⟩
  exact ⟨he, by decide, by decide +kernel, by decide, by decide⟩

/-! ## Nothing but the path -/

/-- **The URL of an id is other than the base's in its path alone**, by one segment at most. -/
structure Confines (e : Endpoints) (id : String) : Prop where
  scheme : (e.singlePayment id).scheme = e.base.scheme
  /-- User name, password, host and port are the base's. -/
  authority : (e.singlePayment id).authority = e.base.authority
  /-- There is no query and no fragment, … -/
  query : (e.singlePayment id).query = none
  fragment : (e.singlePayment id).fragment = none
  /-- … and no mark of them in the text, which is the base's up to the path. -/
  chars : (e.singlePayment id).chars = e.base.frontText ++ (e.singlePayment id).path.text
  marks : Url.partMarks (e.singlePayment id).chars = []
  /-- The path goes on behind the segments that are left of the base's, with one more at most than
  the page of all payments. No slash stands in any of them. -/
  path : ∃ front segments, e.stem = Url.segmentsText front ∧
    (e.below "/payments".toList).path = .rooted (front ++ ["payments".toList]) ∧
    (e.singlePayment id).path = .rooted segments ∧ front <+: segments ∧
    segments.length ≤ (front ++ ["payments".toList]).length + 1 ∧
    ∀ segment ∈ segments, '/' ∉ segment ∧ '\\' ∉ segment
  /-- Where the base is read back from its text, so is this URL. -/
  reread : Url.ofText e.base.text = .ok e.base →
    Url.ofText (e.singlePayment id).text = .ok (e.singlePayment id)

/-- A settled segment has no slash in it. -/
theorem not_slash_of_settled {segment : List Char} (h : Url.Settled segment) :
    '/' ∉ segment ∧ '\\' ∉ segment := by
  have hslash {c : Char} (hc : Url.Manner.web.isSlash c = true) : c ∉ segment := by
    intro hmem
    rw [h.whole c hmem] at hc
    cases hc
  exact ⟨hslash rfl, hslash rfl⟩

/-- **An id touches nothing but the path**, whatever it holds, below every base of the web. -/
theorem confines_of_web (h : ofText s c = .ok e)
    (hweb : e.base.scheme = "http" ∨ e.base.scheme = "https") (id : String) : e.Confines id := by
  obtain ⟨front, hstem, hfront, hpage, hpath⟩ := path_singlePayment h hweb
  have hquery : (e.singlePayment id).query = none := e.base_query
  have hne : front ++ (IdPart.of id).segments ≠ [] :=
    List.append_ne_nil_of_right_ne_nil _ (IdPart.of id).segments_ne_nil
  -- Whatever the id holds, what it adds divides nothing.
  have hsettled : ∀ segment ∈ front ++ (IdPart.of id).segments, Url.Settled segment :=
    List.forall_mem_append.2 ⟨hfront, IdPart.settled_segments id⟩
  have horderly : (e.singlePayment id).Orderly :=
    orderly_on_server h hweb rfl rfl (hpath id) hne hsettled
      (fun q hq => by rw [hquery] at hq; cases hq) e.base_fragment
  have hlength : (front ++ (IdPart.of id).segments).length ≤
      (front ++ ["payments".toList]).length + 1 := by
    have hsegments := (IdPart.of id).length_segments_le
    rw [List.length_append, List.length_append, List.length_singleton]
    omega
  exact
    { scheme := rfl
      authority := rfl
      query := hquery
      fragment := e.base_fragment
      chars := chars_singlePayment h hweb id
      marks := by
        rw [horderly.partMarks_chars, hquery]
        rfl
      path := ⟨front, _, hstem, hpage, hpath id, List.prefix_append _ _, hlength,
        fun segment hs => not_slash_of_settled (hsettled segment hs)⟩
      reread := (orderly_base h hweb).ofText_text horderly rfl rfl }

/-- An id with the marks of all parts of a URL, below a base with a user and a port. -/
theorem confines_within_bank :
    ∃ e, ofText "https://teller:pw@bank.local:8443/core/" .payment = .ok e ∧
      e.Confines "/..\\\t//evil@host:1/%2F?q#f" := by
  have hv : Url.ofText (Text.trim "https://teller:pw@bank.local:8443/core/") =
      .ok ⟨"https", some ⟨"teller".toList, some "pw".toList, some (.name "bank.local".toList),
        some 8443⟩, .rooted ["core".toList, []], none, none⟩ := by decide +kernel
  obtain ⟨he, -⟩ : ofText "https://teller:pw@bank.local:8443/core/" .payment =
      .ok ⟨_, .payment, rfl, rfl⟩ ∧ _ := ofText_web_iff.2 ⟨_, hv, by decide, rfl, rfl⟩
  exact ⟨_, he, confines_of_web he (Or.inr rfl) _⟩

end Endpoints

end Teller
