import Teller.Proofs.Settings.Rule
import Teller.Settings.Load

/-!
# Which settings are in force

Settings come from a file or are the defaults. Then the environment and the command line each may
name another base URL, and what results is checked as a whole.

* `Given`: the settings of a file, or the defaults where there is none.
* `baseUrlInForce`: the base URL that counts; `override_override`: overriding comes to it.
* `loadLogged_of_fault`, `loadLogged_of_given`: a faulty file, and settings that can be read.
* `Resolved`, `resolved_of_load`: what comes of a file, the environment and the command line.
-/

namespace Teller

namespace Settings

variable {file : Option (String × File)} {environment commandLine : Option String}

/-! ## Base URLs -/

/-- The settings with another base URL. -/
def withBaseUrl (s : Settings) (url : String) : Settings :=
  { s with backend := { s.backend with baseUrl := url } }

/-- **The base URL that counts**: of the settings' own one and those that override it the last that
is not blank; if there is none, their own. -/
def baseUrlInForce (own : String) (environment commandLine : Option String) : String :=
  ((own :: (environment.toList ++ commandLine.toList)).filter (!Text.allBlank ·)).getLastD own

theorem overrideBaseUrl_of_blank {url : String} (h : Text.allBlank url = true) (s : Settings) :
    overrideBaseUrl (some url) s = s := if_pos h

theorem overrideBaseUrl_of_text {url : String} (h : Text.allBlank url = false) (s : Settings) :
    overrideBaseUrl (some url) s = s.withBaseUrl url := if_neg (by rw [h]; exact Bool.false_ne_true)

/-- Behind all others, a base URL that is not blank counts. -/
theorem baseUrlInForce_of_text {url : String} (h : Text.allBlank url = false) (own : String)
    (environment : Option String) : baseUrlInForce own environment (some url) = url := by
  have hurl : [url].filter (!Text.allBlank ·) = [url] := List.filter_cons_of_pos (by rw [h]; rfl)
  show ((own :: (environment.toList ++ [url])).filter _).getLastD own = url
  rw [← List.cons_append, List.filter_append, hurl, List.getLastD_concat]

/-- A blank one does not count. -/
theorem baseUrlInForce_of_blank {url : String} (h : Text.allBlank url = true) (own : String)
    (environment : Option String) :
    baseUrlInForce own environment (some url) = baseUrlInForce own environment none := by
  have hurl : [url].filter (!Text.allBlank ·) = [] :=
    List.filter_cons_of_neg (by rw [h]; exact Bool.false_ne_true)
  show ((own :: (environment.toList ++ [url])).filter _).getLastD own =
    ((own :: (environment.toList ++ [])).filter _).getLastD own
  rw [← List.cons_append, List.filter_append, hurl, List.append_nil, List.append_nil]

/-- The environment overrides as the command line does where that names nothing. -/
theorem baseUrlInForce_swap (own : String) (named : Option String) :
    baseUrlInForce own named none = baseUrlInForce own none named := by
  unfold baseUrlInForce
  rw [Option.toList_none, List.append_nil, List.nil_append]

/-- Nothing but the settings' own base URL. -/
theorem baseUrlInForce_none (own : String) : baseUrlInForce own none none = own := by
  show ([own].filter _).getLastD own = own
  rw [List.filter_singleton]
  cases Text.allBlank own <;> rfl

/-- One override comes to the base URL that counts. -/
theorem overrideBaseUrl_eq (named : Option String) (s : Settings) :
    overrideBaseUrl named s = s.withBaseUrl (baseUrlInForce s.backend.baseUrl none named) := by
  cases named with
  | none =>
    rw [baseUrlInForce_none]
    rfl
  | some url =>
    cases h : Text.allBlank url with
    | true =>
      rw [overrideBaseUrl_of_blank h, baseUrlInForce_of_blank h, baseUrlInForce_none]
      rfl
    | false => rw [overrideBaseUrl_of_text h, baseUrlInForce_of_text h]

/-- **Both overrides**, one after the other, come to the base URL that counts, and change nothing
else. -/
theorem override_override (environment commandLine : Option String) (s : Settings) :
    overrideBaseUrl commandLine (overrideBaseUrl environment s) =
      s.withBaseUrl (baseUrlInForce s.backend.baseUrl environment commandLine) := by
  cases commandLine with
  | none =>
    rw [baseUrlInForce_swap]
    exact overrideBaseUrl_eq environment s
  | some url =>
    cases h : Text.allBlank url with
    | true =>
      rw [overrideBaseUrl_of_blank h, baseUrlInForce_of_blank h, baseUrlInForce_swap]
      exact overrideBaseUrl_eq environment s
    | false =>
      rw [overrideBaseUrl_of_text h, baseUrlInForce_of_text h, overrideBaseUrl_eq]
      rfl

/-- An override that is not blank hides the base URL in front of it. -/
theorem baseUrlInForce_overridden {url : String} (h : Text.allBlank url = false)
    (hnamed : environment = some url ∨ commandLine = some url) (own own' : String) :
    baseUrlInForce own' environment commandLine = baseUrlInForce own environment commandLine := by
  have hlast (named : Option String) :
      baseUrlInForce own' named (some url) = baseUrlInForce own named (some url) := by
    rw [baseUrlInForce_of_text h, baseUrlInForce_of_text h]
  rcases hnamed with rfl | rfl
  · -- The command line may still override the environment.
    cases commandLine with
    | none => rw [baseUrlInForce_swap, hlast, ← baseUrlInForce_swap]
    | some url' =>
      cases h' : Text.allBlank url' with
      | true =>
        rw [baseUrlInForce_of_blank h', baseUrlInForce_of_blank h', baseUrlInForce_swap, hlast,
          ← baseUrlInForce_swap]
      | false => rw [baseUrlInForce_of_text h', baseUrlInForce_of_text h']
  · exact hlast environment

/-! ## Loading -/

/-- **The settings of a file** with its path, or the defaults if there is no file. -/
def Given (file : Option (String × File)) (s : Settings) : Prop :=
  match file with
  | some (_, f) => ∃ text, f.text = .ok text ∧ ofToml text = .ok s
  | none => s = {}

/-- What the sources come to: the given settings with the base URL that counts. -/
def mergedWith (s : Settings) (environment commandLine : Option String) : Settings :=
  s.withBaseUrl (baseUrlInForce s.backend.baseUrl environment commandLine)

/-- A file that cannot be read, or whose text is none of settings, is all that counts. -/
theorem loadLogged_of_fault {path : String} {f : File} {e : LoadError} (h : ofFile f = .error e)
    (environment commandLine : Option String) :
    loadLogged (some (path, f)) environment commandLine = (.error e, []) := by
  have hload : load (some f) environment commandLine = .error e := by
    show (ofFile f).bind _ = _
    rw [h]
    rfl
  unfold loadLogged
  rw [Option.map_some, hload]

/-- Settings that can be read are merged, then checked. -/
theorem load_of_given {s : Settings} (h : Given file s) :
    load (file.map (·.2)) environment commandLine =
      checked (s.mergedWith environment commandLine) := by
  rw [mergedWith, ← override_override]
  cases file with
  | none =>
    cases h
    rfl
  | some p =>
    obtain ⟨text, htext, htoml⟩ := h
    have hfile : ofFile p.2 = .ok s := by
      unfold ofFile
      rw [htext]
      show (ofToml text).mapError _ = _
      rw [htoml]
      rfl
    show (ofFile p.2).bind _ = _
    rw [hfile]
    rfl

/-- **Settings that can be read** come into force if their rules are kept. -/
theorem loadLogged_of_given {s : Settings} (h : Given file s) :
    loadLogged file environment commandLine =
      match (s.mergedWith environment commandLine).problems with
      | [] => (.ok (s.mergedWith environment commandLine), [.settingsLoaded (file.map (·.1))
          (baseUrlInForce s.backend.baseUrl environment commandLine)])
      | problems => (.error (.invalid problems), []) := by
  unfold loadLogged
  rw [load_of_given h, checked]
  cases (s.mergedWith environment commandLine).problems with
  | nil => rfl
  | cons p ps => rfl

/-- What is logged of loading tells whether it succeeded. -/
theorem loadLogged_log (file : Option (String × File)) (environment commandLine : Option String) :
    (∃ s, loadLogged file environment commandLine =
        (.ok s, [.settingsLoaded (file.map (·.1)) s.backend.baseUrl])) ∨
      ∃ e, loadLogged file environment commandLine = (.error e, []) := by
  unfold loadLogged
  cases load (file.map (·.2)) environment commandLine with
  | ok s => exact Or.inl ⟨s, rfl⟩
  | error e => exact Or.inr ⟨e, rfl⟩

/-- **What comes of a file, the environment and the command line.** -/
structure Resolved (file : Option (String × File)) (environment commandLine : Option String) :
    Prop where
  /-- A file that cannot be read is an error, whatever the others say, … -/
  unreadable : ∀ path f fault, file = some (path, f) → f.text = .error fault →
    loadLogged file environment commandLine = (.error (.file fault), [])
  /-- … and so is one whose text gives no settings. -/
  unparsable : ∀ path f text e, file = some (path, f) → f.text = .ok text →
    ofToml text = .error e → loadLogged file environment commandLine = (.error (.document e), [])
  /-- What is merged is in force if it keeps all rules. -/
  accepted : ∀ s, Given file s → (∀ r : Rule, r.Kept (s.mergedWith environment commandLine)) →
    loadLogged file environment commandLine =
      (.ok (s.mergedWith environment commandLine), [.settingsLoaded (file.map (·.1))
        (baseUrlInForce s.backend.baseUrl environment commandLine)])
  /-- If not, there is one problem for each rule that it breaks. -/
  refused : ∀ s, Given file s → (¬ ∀ r : Rule, r.Kept (s.mergedWith environment commandLine)) →
    ∃ problems,
      List.Forall₂ (Problem.Reports (s.mergedWith environment commandLine)) problems
        (Rule.broken (s.mergedWith environment commandLine)) ∧
      loadLogged file environment commandLine = (.error (.invalid problems), [])
  /-- Nothing that the environment says matters in front of a command line that is not blank. -/
  environment_overridden : ∀ url, commandLine = some url → Text.allBlank url = false →
    ∀ environment', loadLogged file environment' commandLine =
      loadLogged file environment commandLine
  /-- The base URL of a file does not matter in front of an override that is not blank. -/
  file_overridden : ∀ url, environment = some url ∨ commandLine = some url →
    Text.allBlank url = false → ∀ file' s own, Given file s → Given file' (s.withBaseUrl own) →
    file'.map (·.1) = file.map (·.1) →
      loadLogged file' environment commandLine = loadLogged file environment commandLine
  /-- It is logged that settings are in force exactly if they are. -/
  logged : "Configuration loaded" ∈ (loadLogged file environment commandLine).2.map Event.message ↔
    ∃ s, (loadLogged file environment commandLine).1 = .ok s

/-- **Which settings are in force**, for every file, environment and command line. -/
theorem resolved_of_load (file : Option (String × File)) (environment commandLine : Option String) :
    Resolved file environment commandLine := by
  refine ⟨?_, ?_, ?_, ?_, ?_, ?_, ?_⟩
  · rintro path f fault rfl hf
    refine loadLogged_of_fault ?_ environment commandLine
    unfold ofFile
    rw [hf]
    rfl
  · rintro path f text e rfl hf htoml
    refine loadLogged_of_fault ?_ environment commandLine
    unfold ofFile
    rw [hf]
    show (ofToml text).mapError _ = _
    rw [htoml]
    rfl
  · intro s hs hkept
    rw [loadLogged_of_given hs, problems_eq_nil_iff.2 hkept]
  · intro s hs hbroken
    refine ⟨_, problems_report _, ?_⟩
    rw [loadLogged_of_given hs]
    cases hp : (s.mergedWith environment commandLine).problems with
    | nil => exact absurd (problems_eq_nil_iff.1 hp) hbroken
    | cons p ps => rfl
  · rintro url rfl hurl environment'
    have hoverride (s : Settings) (named : Option String) :
        overrideBaseUrl (some url) (overrideBaseUrl named s) = s.withBaseUrl url := by
      rw [override_override, baseUrlInForce_of_text hurl]
    unfold loadLogged load
    simp only [hoverride]
  · intro url hnamed hurl file' s own hs hs' hpath
    have hown : (s.withBaseUrl own).mergedWith environment commandLine =
        s.mergedWith environment commandLine := by
      show s.withBaseUrl _ = s.withBaseUrl _
      rw [baseUrlInForce_overridden hurl hnamed]
    rw [loadLogged_of_given hs, loadLogged_of_given hs', hown, hpath,
      baseUrlInForce_overridden hurl hnamed s.backend.baseUrl]
  · rcases loadLogged_log file environment commandLine with ⟨s, hs⟩ | ⟨e, he⟩
    · rw [hs]
      exact ⟨fun _ => ⟨s, rfl⟩, fun _ => List.mem_singleton.2 rfl⟩
    · rw [he]
      constructor
      · intro h
        cases h
      · rintro ⟨s, hs⟩
        cases hs

end Settings

end Teller
