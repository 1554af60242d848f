import Mathlib.Data.List.Forall2
import Teller.Settings.Problem

/-!
# The rules of settings

Settings make sense if they keep five rules. Checking them finds one problem for each rule that is
broken, in the order of the rules, whatever else is broken.

* `Url.IsBase`: what the rule for base URLs asks; `BaseUrlFault.Of`: the ways to break it.
* `Rule`, `Rule.Kept`: the rules, and what each of them asks.
* `Problem.Reports`: a problem tells which rule some settings break, and how.
* `problems_report`: the problems of settings report the rules that are broken.
-/

namespace Teller

/-- A URL that requests can go below: on the web, with a host and without query. -/
def Url.IsBase (u : Url) : Prop :=
  (u.scheme = "http" ∨ u.scheme = "https") ∧ u.host?.isSome ∧ u.query = none

namespace Settings

/-! ## Base URLs -/

/-- **The faults of a text** that should be a base URL. The first one counts. -/
inductive BaseUrlFault.Of (text : String) : BaseUrlFault → Prop
  | unreadable {cause : UrlError} (h : Url.ofText text = .error cause) : Of text (.unreadable cause)
  | scheme {u : Url} (h : Url.ofText text = .ok u)
      (hs : ¬ (u.scheme = "http" ∨ u.scheme = "https")) : Of text (.scheme u.scheme)
  | noHost {u : Url} (h : Url.ofText text = .ok u) (hs : u.scheme = "http" ∨ u.scheme = "https")
      (hh : u.host? = none) : Of text .noHost
  | query {u : Url} (h : Url.ofText text = .ok u) (hs : u.scheme = "http" ∨ u.scheme = "https")
      (hh : u.host?.isSome) (hq : u.query.isSome) : Of text .query

variable {text : String}

/-- A text has a fault, or it is a base URL. -/
theorem baseUrlFault?_cases (text : String) :
    (∃ fault, baseUrlFault? text = some fault ∧ fault.Of text) ∨
      baseUrlFault? text = none ∧ ∃ u, Url.ofText text = .ok u ∧ u.IsBase := by
  unfold baseUrlFault?
  cases hu : Url.ofText text with
  | error cause => exact Or.inl ⟨_, rfl, .unreadable hu⟩
  | ok u =>
    dsimp only
    by_cases hs : u.scheme = "http" ∨ u.scheme = "https"
    · rw [if_neg (fun h => hs.elim h.1 h.2)]
      cases hh : u.host? with
      | none => exact Or.inl ⟨.noHost, rfl, .noHost hu hs hh⟩
      | some host =>
        have hhost : u.host?.isSome := by rw [hh]; rfl
        cases hq : u.query with
        | none => exact Or.inr ⟨rfl, u, rfl, hs, hhost, hq⟩
        | some query => exact Or.inl ⟨.query, rfl, .query hu hs hhost (by rw [hq]; rfl)⟩
    · rw [if_pos (not_or.1 hs)]
      exact Or.inl ⟨_, rfl, .scheme hu hs⟩

/-- A base URL has no fault. -/
theorem BaseUrlFault.Of.not_isBase {fault : BaseUrlFault} (h : fault.Of text) {u : Url}
    (hu : Url.ofText text = .ok u) : ¬ u.IsBase := by
  rintro ⟨hs, hh, hq⟩
  cases h with
  | unreadable h =>
    rw [hu] at h
    cases h
  | scheme h hs' =>
    cases h.symm.trans hu
    exact hs' hs
  | noHost h _ hh' =>
    cases h.symm.trans hu
    rw [hh'] at hh
    cases hh
  | query h _ _ hq' =>
    cases h.symm.trans hu
    rw [hq] at hq'
    cases hq'

/-- **Nothing is wrong** with the text of a base URL exactly if it is one. -/
theorem baseUrlFault?_eq_none_iff :
    baseUrlFault? text = none ↔ ∃ u, Url.ofText text = .ok u ∧ u.IsBase := by
  rcases baseUrlFault?_cases text with ⟨fault, hf, hof⟩ | ⟨hnone, hbase⟩
  · constructor
    · intro h
      rw [hf] at h
      cases h
    · rintro ⟨u, hu, hbase⟩
      exact absurd hbase (hof.not_isBase hu)
  · exact ⟨fun _ => hbase, fun _ => hnone⟩

/-! ## Rules -/

/-- What settings have to keep. -/
inductive Rule where
  | baseUrl
  | positive (what : Counted)
  | logLevel
deriving DecidableEq, Repr

namespace Rule

/-- All rules, in the order in which they are checked. -/
def all : List Rule :=
  [.baseUrl, .positive .connectSecs, .positive .requestSecs, .positive .maxSessions, .logLevel]

/-- **What a rule asks** of settings. -/
def Kept (s : Settings) : Rule → Prop
  | .baseUrl => ∃ u, Url.ofText s.backend.baseUrl = .ok u ∧ u.IsBase
  | .positive what => 0 < what.value s
  | .logLevel => s.observability.logLevel.map Char.toLower ∈ logLevels

instance (s : Settings) : DecidablePred (Kept s)
  | .baseUrl => decidable_of_iff _ baseUrlFault?_eq_none_iff
  | .positive what => inferInstanceAs (Decidable (0 < what.value s))
  | .logLevel => inferInstanceAs (Decidable (_ ∈ logLevels))

/-- The rules that settings break, in the order in which they are checked. -/
def broken (s : Settings) : List Rule := all.filter fun r => ¬ r.Kept s

theorem mem_all (r : Rule) : r ∈ all := by
  rcases r with _ | what | _
  · decide
  · cases what <;> decide
  · decide

/-- No rule is broken if all are kept. -/
theorem broken_eq_nil_iff {s : Settings} : broken s = [] ↔ ∀ r : Rule, r.Kept s := by
  unfold broken
  rw [List.filter_eq_nil_iff]
  constructor
  · intro h r
    simpa using h r (mem_all r)
  · intro h r _
    simpa using h r

end Rule

/-- **What a problem reports** of settings: the rule that they break, with the text that breaks
it. -/
inductive Problem.Reports (s : Settings) : Problem → Rule → Prop
  | baseUrl {fault : BaseUrlFault} (h : fault.Of s.backend.baseUrl) :
      Reports s (.baseUrl s.backend.baseUrl fault) .baseUrl
  | zero {what : Counted} (h : what.value s = 0) : Reports s (.zero what) (.positive what)
  | logLevel : Reports s (.logLevel s.observability.logLevel) .logLevel

variable {s : Settings}

theorem reports_baseUrl :
    List.Forall₂ (Problem.Reports s)
      ((baseUrlFault? s.backend.baseUrl).map (Problem.baseUrl s.backend.baseUrl)).toList
      ([Rule.baseUrl].filter fun r => ¬ r.Kept s) := by
  rcases baseUrlFault?_cases s.backend.baseUrl with ⟨fault, hf, hof⟩ | ⟨hnone, hbase⟩
  · have hkept : ¬ Rule.baseUrl.Kept s := fun ⟨u, hu, hbase⟩ => hof.not_isBase hu hbase
    rw [hf, List.filter_cons_of_pos (by simpa using hkept)]
    exact .cons (.baseUrl hof) .nil
  · have hkept : Rule.baseUrl.Kept s := hbase
    rw [hnone, List.filter_cons_of_neg (by simpa using hkept)]
    exact .nil

theorem reports_zero (whats : List Counted) :
    List.Forall₂ (Problem.Reports s) ((whats.filter (·.value s == 0)).map .zero)
      ((whats.map Rule.positive).filter fun r => ¬ r.Kept s) := by
  induction whats with
  | nil => exact .nil
  | cons what whats ih =>
    by_cases hzero : what.value s = 0
    · have hkept : ¬ (Rule.positive what).Kept s := by
        show ¬ 0 < what.value s
        rw [hzero]
        exact UInt64.lt_irrefl 0
      rw [List.filter_cons_of_pos (by simpa using hzero), List.map_cons, List.map_cons,
        List.filter_cons_of_pos (by simpa using hkept)]
      exact .cons (.zero hzero) ih
    · have hkept : (Rule.positive what).Kept s := UInt64.pos_iff_ne_zero.2 hzero
      rw [List.filter_cons_of_neg (by simpa using hzero), List.map_cons,
        List.filter_cons_of_neg (by simpa using hkept)]
      exact ih

theorem reports_logLevel :
    List.Forall₂ (Problem.Reports s)
      (if s.observability.logLevel.map Char.toLower ∈ logLevels then []
        else [Problem.logLevel s.observability.logLevel])
      ([Rule.logLevel].filter fun r => ¬ r.Kept s) := by
  by_cases hlevel : s.observability.logLevel.map Char.toLower ∈ logLevels
  · have hkept : Rule.logLevel.Kept s := hlevel
    rw [if_pos hlevel, List.filter_cons_of_neg (by simpa using hkept)]
    exact .nil
  · have hkept : ¬ Rule.logLevel.Kept s := hlevel
    rw [if_neg hlevel, List.filter_cons_of_pos (by simpa using hkept)]
    exact .cons .logLevel .nil

/-- **The problems of settings** report the rules that are broken, each once and in their order. -/
theorem problems_report (s : Settings) :
    List.Forall₂ (Problem.Reports s) s.problems (Rule.broken s) := by
  have hall : Rule.all = [.baseUrl] ++ Counted.all.map .positive ++ [.logLevel] := rfl
  unfold problems Rule.broken
  rw [hall, List.filter_append, List.filter_append]
  exact List.rel_append (List.rel_append reports_baseUrl (reports_zero _)) reports_logLevel

/-- There are no problems exactly if all rules are kept. -/
theorem problems_eq_nil_iff : s.problems = [] ↔ ∀ r : Rule, r.Kept s := by
  rw [← Rule.broken_eq_nil_iff]
  have hlen := (problems_report s).length_eq
  rw [← List.length_eq_zero_iff, ← List.length_eq_zero_iff, hlen]

end Settings

end Teller
