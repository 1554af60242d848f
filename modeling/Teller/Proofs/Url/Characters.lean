import Teller.Endpoints
import Teller.Http.Message
import Teller.Proofs.Text.Infix

/-!
# The characters of URLs

Below a base, a URL has no characters but those of its base and of what was added to it, apart from
the marks of URLs and of escapes.

* `Within`: a URL all of whose parts have characters of one kind; `within_iff`: so has its text.
* `Within.withPath`, `Within.push`: URLs with a part changed.
* `Endpoints.within_consent` and its like: the URLs of calls.
-/

namespace Teller

namespace Url

/-- The marks between the parts of URLs, and of escapes. -/
def marks : List Char := "%:/.?#0123456789ABCDEF".toList

/-- Segments with characters of one kind. -/
def AllIn (P : Char → Prop) (segments : List (List Char)) : Prop :=
  ∀ s ∈ segments, ∀ c ∈ s, P c

theorem subset_trimRoot (segments : List (List Char)) : trimRoot segments ⊆ segments := by
  fun_induction trimRoot segments with
  | case1 rest h =>
    intro s hs
    rw [List.mem_singleton.1 hs]
    exact List.mem_cons_self
  | case2 rest h ih => exact List.Subset.trans ih (List.subset_cons_self _ _)
  | case3 => exact fun _ hs => hs

theorem all_markedText {P : Char → Prop} {mark : Char} (hm : P mark) (part : Option (List Char)) :
    (∀ c ∈ markedText mark part, P c) ↔ ∀ cs ∈ part, ∀ c ∈ cs, P c := by
  cases part with
  | none => simp [markedText]
  | some cs => simp [markedText, hm]

/-- A URL whose parts have characters of one kind. -/
structure Within (P : Char → Prop) (u : Url) : Prop where
  scheme : ∀ c ∈ u.scheme.toList, P c
  authority : ∀ a ∈ u.authority, ∀ c ∈ a.text, P c
  path : ∀ c ∈ u.path.text, P c
  query : ∀ cs ∈ u.query, ∀ c ∈ cs, P c
  fragment : ∀ cs ∈ u.fragment, ∀ c ∈ cs, P c

section

-- The characters that are meant include the marks of URLs.
variable {P : Char → Prop} (hP : ∀ c ∈ marks, P c)
include hP

theorem all_escapeOctet (b : UInt8) : ∀ c ∈ escapeOctet b, P c := by
  have hdigit : ∀ d : Fin 16, Text.upperHex d ∈ marks := by decide
  have hhigh := hP _ (hdigit ⟨b.toNat / 16, by have := b.toNat_lt; omega⟩)
  have hlow := hP _ (hdigit ⟨b.toNat % 16, Nat.mod_lt _ (by decide)⟩)
  simp only [escapeOctet, List.forall_mem_cons]
  exact ⟨hP _ (by decide), hhigh, hlow, fun _ h => nomatch h⟩

theorem all_escapeWith (set : EscapeSet) {cs : List Char} (h : ∀ c ∈ cs, P c) :
    ∀ c ∈ escapeWith set cs, P c := by
  intro c hc
  obtain ⟨a, ha, hc⟩ := List.mem_flatMap.1 hc
  unfold escapeChar at hc
  split at hc
  · obtain ⟨b, -, hc⟩ := List.mem_flatMap.1 hc
    exact all_escapeOctet hP b c hc
  · rw [List.mem_singleton.1 hc]
    exact h a ha

/-! ### Segments -/

theorem all_normalDrive (m : Manner) (front : List (List Char)) {segment : List Char}
    (h : ∀ c ∈ segment, P c) : ∀ c ∈ normalDrive m front segment, P c := by
  unfold normalDrive
  split
  · rw [List.forall_mem_append]
    exact ⟨fun c hc => h c (List.mem_of_mem_take hc),
      List.forall_mem_singleton.2 (hP _ (by decide))⟩
  · exact h

theorem allIn_addSegment (m : Manner) {front : List (List Char)} {segment : List Char}
    (hfront : AllIn P front) (h : ∀ c ∈ segment, P c) : AllIn P (addSegment m front segment) := by
  unfold addSegment
  split
  · unfold shorten
    split
    · exact hfront
    · exact fun s hs => hfront s (List.dropLast_subset front hs)
  · split
    · exact hfront
    · exact List.forall_mem_append.2
        ⟨hfront, List.forall_mem_singleton.2 (all_normalDrive hP m front h)⟩

theorem allIn_addLast (m : Manner) {front : List (List Char)} {segment : List Char}
    (hfront : AllIn P front) (h : ∀ c ∈ segment, P c) : AllIn P (addLast m front segment) := by
  unfold addLast
  split
  · exact List.forall_mem_append.2
      ⟨allIn_addSegment hP m hfront h, List.forall_mem_singleton.2 fun _ hc => nomatch hc⟩
  · exact allIn_addSegment hP m hfront h

theorem allIn_addAll (m : Manner) {front segments : List (List Char)} (hfront : AllIn P front)
    (h : AllIn P segments) : AllIn P (addAll m front segments) := by
  fun_induction addAll m front segments with
  | case1 front => exact hfront
  | case2 front last => exact allIn_addLast hP m hfront (h last List.mem_cons_self)
  | case3 front segment rest _ ih =>
    rw [AllIn, List.forall_mem_cons] at h
    exact ih (allIn_addSegment hP m hfront h.1) h.2

theorem allIn_readSegments (m : Manner) {text : List Char} (h : ∀ c ∈ text, P c) :
    AllIn P (readSegments m text) := by
  unfold readSegments
  split
  · exact fun _ hs => nomatch hs
  · refine allIn_addAll hP m (fun _ hs => nomatch hs) ?_
    intro s hs
    obtain ⟨raw, hraw, rfl⟩ := List.mem_map.1 hs
    refine all_escapeWith hP _ fun c hc => h c ?_
    have hdrop : dropSlash m text ⊆ text := by
      unfold dropSlash
      split
      · split
        · exact List.subset_cons_self _ _
        · exact fun _ hc => hc
      · exact fun _ hc => hc
    exact hdrop (Text.of_mem_splitOnP hraw c hc).2

theorem allIn_pushSegment (m : Manner) {front : List (List Char)} {segment : List Char}
    (hfront : AllIn P front) (h : ∀ c ∈ segment, P c) :
    AllIn P (pushSegment m front segment) := by
  unfold pushSegment
  split
  · exact hfront
  · refine allIn_addLast hP m ?_ (all_escapeWith hP _ fun c hc => h c (List.mem_filter.1 hc).1)
    split
    · exact fun _ hs => nomatch hs
    · exact hfront

/-! ### Paths and URLs -/

theorem all_pathText_iff (front : List (List Char)) :
    (∀ c ∈ (Path.rooted front).text, P c) ↔ AllIn P front := by
  simp only [Path.text, segmentsText, List.mem_flatMap, List.mem_cons]
  constructor
  · exact fun h s hs c hc => h c ⟨s, hs, Or.inr hc⟩
  · rintro h c ⟨s, hs, rfl | hc⟩
    · exact hP _ (by decide)
    · exact h s hs c hc

theorem within_iff {u : Url} : (∀ c ∈ u.chars, P c) ↔ Within P u := by
  have hslash : P '/' := hP _ (by decide)
  have hcolon : P ':' := hP _ (by decide)
  have hdot : P '.' := hP _ (by decide)
  have hfront : (∀ c ∈ u.frontText, P c) ↔
      (∀ c ∈ u.scheme.toList, P c) ∧ ∀ a ∈ u.authority, ∀ c ∈ a.text, P c := by
    unfold frontText
    rw [List.forall_mem_append, List.forall_mem_cons]
    cases u.authority with
    | none =>
      -- Without an authority there may be a guard of marks in front of the path.
      simp only [Option.mem_def, reduceCtorEq, false_implies, implies_true, and_true]
      constructor
      · exact fun h => h.1
      · refine fun h => ⟨h, hcolon, ?_⟩
        split <;> simp [hslash, hdot]
    | some a => simp [hslash, hcolon]
  unfold chars
  rw [List.forall_mem_append, List.forall_mem_append, List.forall_mem_append, hfront,
    all_markedText (hP '?' (by decide)), all_markedText (hP '#' (by decide))]
  constructor
  · rintro ⟨⟨⟨⟨hs, ha⟩, hp⟩, hq⟩, hf⟩
    exact ⟨hs, ha, hp, hq, hf⟩
  · rintro ⟨hs, ha, hp, hq, hf⟩
    exact ⟨⟨⟨⟨hs, ha⟩, hp⟩, hq⟩, hf⟩

theorem Within.withPath {u : Url} (h : Within P u) {text : List Char} (ht : ∀ c ∈ text, P c) :
    Within P (u.withPath text) := by
  refine ⟨h.scheme, h.authority, ?_, h.query, h.fragment⟩
  have hread := allIn_readSegments hP u.manner ht
  refine (all_pathText_iff hP _).2 ?_
  split
  · exact fun s hs => hread s (subset_trimRoot _ hs)
  · exact hread

theorem Within.push {u : Url} (h : Within P u) {segment : List Char}
    (hs : ∀ c ∈ segment, P c) : Within P (u.push segment) := by
  refine ⟨h.scheme, h.authority, ?_, h.query, h.fragment⟩
  have hpath := h.path
  unfold Url.push Path.push
  cases hp : u.path with
  | flat text =>
    rw [hp] at hpath
    exact hpath
  | rooted front =>
    rw [hp, all_pathText_iff hP] at hpath
    exact (all_pathText_iff hP _).2 (allIn_pushSegment hP u.manner hpath hs)

end

theorem Within.withoutUser {P : Char → Prop} {u : Url} (h : Within P u) :
    Within P u.withoutUser := by
  refine ⟨h.scheme, ?_, h.path, h.query, h.fragment⟩
  intro bare hbare
  obtain ⟨a, ha, rfl⟩ := Option.map_eq_some_iff.1 hbare
  have hall := h.authority a ha
  rw [Authority.text, List.forall_mem_append] at hall
  exact hall.2

end Url

/-! ## The URLs of calls -/

namespace Endpoints

variable {P : Char → Prop} {e : Endpoints}

theorem within_below (hP : ∀ c ∈ Url.marks, P c) (h : e.base.Within P) {path : List Char}
    (hp : ∀ c ∈ path, P c) : (e.below path).Within P := by
  refine h.withPath hP (List.forall_mem_append.2 ⟨?_, hp⟩)
  intro c hc
  have hc := List.dropWhile_subset _ (List.mem_reverse.1 hc)
  exact h.path c (List.mem_reverse.1 hc)

theorem within_tanConfirmation (hP : ∀ c ∈ Url.marks, P c) (h : e.base.Within P)
    (hp : ∀ c ∈ e.confirmation.text.toList, P c) : e.tanConfirmation.Within P := by
  refine within_below hP h ?_
  rw [String.toList_append, List.forall_mem_append]
  exact ⟨hp, fun c hc => hP c ((by decide : "/".toList ⊆ Url.marks) hc)⟩

theorem within_consent (hP : ∀ c ∈ Url.marks, P c) (h : e.base.Within P)
    (hp : ∀ c ∈ e.confirmation.text.toList, P c) (hc : ∀ c ∈ "/consent".toList, P c)
    (d : Decision) (hd : ∀ c ∈ ("decision=" ++ d.word).toList, P c) :
    (e.consent d).Within P := by
  have hbelow : (e.below (e.confirmation.text ++ "/consent").toList).Within P := by
    refine within_below hP h ?_
    rw [String.toList_append, List.forall_mem_append]
    exact ⟨hp, hc⟩
  refine ⟨hbelow.scheme, hbelow.authority, hbelow.path, ?_, hbelow.fragment⟩
  intro cs hcs
  cases hcs
  exact hd

theorem within_singlePayment (hP : ∀ c ∈ Url.marks, P c) (h : e.base.Within P)
    (hp : ∀ c ∈ "/payments".toList, P c) {id : String} (hid : ∀ c ∈ id.toList, P c) :
    (e.singlePayment id).Within P :=
  (within_below hP h hp).push hP hid

end Endpoints

end Teller
