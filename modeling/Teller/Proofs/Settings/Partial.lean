import Teller.Proofs.Json.Giving
import Teller.Proofs.RoundTrip
import Teller.Proofs.Toml.Decoding
import Teller.Proofs.Toml.Lines
import Teller.Settings.Load

/-!
# Settings that are given in part

A document of settings gives any of them, in any notation that its language has for it. Each setting
that is given counts, and each other one has its own default, whatever else the document says.

* `Partial`: some of the settings; `Partial.settings`: completed by the defaults.
* `Told`: what is said about one setting; `Partial.From`: about all of them.
* `Partial.InToml`, `Partial.InJson`: the settings that a document gives, told from its lines or
  from its members.
* `completed_of_text`: what is read of such a document.
-/

namespace Teller

open Schema (Shape Fields)
open Toml (Statement Leads)
open Json (Doc IsText leads_nil leads_comma)

/-- The pages that a word stands for. -/
def ConfirmationPath.ofWord? (s : String) : Option ConfirmationPath :=
  [ConfirmationPath.payment, .view].find? (·.word == s)

namespace Settings

/-! ## Some of the settings -/

/-- Some of the settings. -/
structure Partial where
  baseUrl : Option String := none
  confirmationPath : Option ConfirmationPath := none
  connectSecs : Option UInt64 := none
  requestSecs : Option UInt64 := none
  maxSessions : Option UInt64 := none
  logLevel : Option String := none
  json : Option Bool := none

/-- **The settings**, each of which is given or else is its own default. -/
def Partial.settings (g : Partial) : Settings where
  backend :=
    { baseUrl := g.baseUrl.getD "http://localhost:28080"
      confirmationPath := g.confirmationPath.getD .payment }
  timeouts := { connectSecs := g.connectSecs.getD 5, requestSecs := g.requestSecs.getD 30 }
  sessions := { maxSessions := g.maxSessions.getD 1000 }
  observability := { logLevel := g.logLevel.getD "info", json := g.json.getD false }

/-- The sections of the settings and the keys in each of them. -/
def known : List (String × String) :=
  [("backend", "base_url"), ("backend", "confirmation_path"), ("timeouts", "connect_secs"),
    ("timeouts", "request_secs"), ("sessions", "max_sessions"), ("observability", "log_level"),
    ("observability", "json")]

/-- How values of a notation are read. -/
structure Reader (ι : Type) where
  text : ι → Option String
  count : ι → Option UInt64
  flag : ι → Option Bool

section

variable {ι α β : Type}

/-- Pages are read as their words. -/
def Reader.path (r : Reader ι) (i : ι) : Option ConfirmationPath :=
  (r.text i).bind ConfirmationPath.ofWord?

/-- **What is said about one setting**: nothing at all, or one thing that is read as its value. -/
def Told (said : List ι) (read : ι → Option α) (value : Option α) : Prop :=
  said.map read = (value.map some).toList

/-- **What is said about all settings**, each under its key in its section. -/
structure Partial.From (r : Reader ι) (said : String → String → List ι) (g : Partial) : Prop where
  baseUrl : Told (said "backend" "base_url") r.text g.baseUrl
  confirmationPath : Told (said "backend" "confirmation_path") r.path g.confirmationPath
  connectSecs : Told (said "timeouts" "connect_secs") r.count g.connectSecs
  requestSecs : Told (said "timeouts" "request_secs") r.count g.requestSecs
  maxSessions : Told (said "sessions" "max_sessions") r.count g.maxSessions
  logLevel : Told (said "observability" "log_level") r.text g.logLevel
  json : Told (said "observability" "json") r.flag g.json

instance [DecidableEq α] (said : List ι) (read : ι → Option α) (value : Option α) :
    Decidable (Told said read value) :=
  inferInstanceAs (Decidable (said.map read = (value.map some).toList))

instance (r : Reader ι) (said : String → String → List ι) (g : Partial) :
    Decidable (g.From r said) :=
  decidable_of_iff
    (Told (said "backend" "base_url") r.text g.baseUrl ∧
      Told (said "backend" "confirmation_path") r.path g.confirmationPath ∧
      Told (said "timeouts" "connect_secs") r.count g.connectSecs ∧
      Told (said "timeouts" "request_secs") r.count g.requestSecs ∧
      Told (said "sessions" "max_sessions") r.count g.maxSessions ∧
      Told (said "observability" "log_level") r.text g.logLevel ∧
      Told (said "observability" "json") r.flag g.json)
    ⟨fun ⟨a, b, c, d, e, f, g⟩ => ⟨a, b, c, d, e, f, g⟩,
      fun ⟨a, b, c, d, e, f, g⟩ => ⟨a, b, c, d, e, f, g⟩⟩

/-! ### What is decoded -/

theorem Told.length_le {said : List ι} {read : ι → Option α} {value : Option α}
    (h : Told said read value) : said.length ≤ 1 := by
  have hlength := congrArg List.length h
  rw [List.length_map] at hlength
  rw [hlength]
  cases value <;> simp

theorem Told.map_eq {said : List ι} {read : ι → Option α} {value : Option α} {x : Option ι}
    {f : ι → β} {enc : α → β} (h : Told said read value) (hx : ∀ i, x = some i ↔ i ∈ said)
    (hf : ∀ i v, read i = some v → f i = enc v) : x.map f = value.map enc := by
  cases value with
  | none =>
    obtain rfl : said = [] := List.map_eq_nil_iff.1 h
    cases x with
    | none => rfl
    | some i => exact absurd ((hx i).1 rfl) List.not_mem_nil
  | some v =>
    obtain ⟨i, rfl, hread⟩ := List.map_eq_singleton_iff.1 h
    rw [(hx i).2 (List.mem_singleton_self i)]
    exact congrArg some (hf i v hread)

theorem finIdxOf?_of_ofWord? {s : String} {p : ConfirmationPath}
    (h : ConfirmationPath.ofWord? s = some p) :
    ConfirmationPath.words.finIdxOf? s = some p.index := by
  unfold ConfirmationPath.ofWord? at h
  have hword := List.find?_some h
  obtain rfl := eq_of_beq hword
  cases p <;> decide

/-- A decoder gives what is read. It may read more than that. -/
structure Reader.Tells {M : Type → Type} [Pure M] (r : Reader ι)
    (decode : (shape : Shape) → ι → M shape.Carrier) : Prop where
  text : ∀ i s, r.text i = some s → decode .text i = pure s
  count : ∀ typeName i n, r.count i = some n → decode (.count typeName) i = pure n
  flag : ∀ i b, r.flag i = some b → decode .flag i = pure b
  word : ∀ choices i s k, r.text i = some s → choices.finIdxOf? s = some k →
    decode (.word choices) i = pure k

/-- **What stands under the keys is decoded** as the settings that are given. -/
structure Partial.Found {M : Type → Type} [Pure M] (g : Partial)
    (decode : (shape : Shape) → ι → M shape.Carrier) (find : String → String → Option ι) :
    Prop where
  baseUrl : (find "backend" "base_url").map (decode .text) = g.baseUrl.map pure
  confirmationPath : (find "backend" "confirmation_path").map (decode ConfirmationPath.shape) =
    (g.confirmationPath.map ConfirmationPath.index).map pure
  connectSecs : (find "timeouts" "connect_secs").map (decode (.count "u64")) =
    g.connectSecs.map pure
  requestSecs : (find "timeouts" "request_secs").map (decode (.count "u64")) =
    g.requestSecs.map pure
  maxSessions : (find "sessions" "max_sessions").map (decode (.count "usize")) =
    g.maxSessions.map pure
  logLevel : (find "observability" "log_level").map (decode .text) = g.logLevel.map pure
  json : (find "observability" "json").map (decode .flag) = g.json.map pure

theorem Partial.From.found {M : Type → Type} [Pure M] {r : Reader ι}
    {decode : (shape : Shape) → ι → M shape.Carrier} {said : String → String → List ι}
    {find : String → String → Option ι} {g : Partial} (h : g.From r said) (hr : r.Tells decode)
    (hfind : ∀ key ∈ known, ∀ i, find key.1 key.2 = some i ↔ i ∈ said key.1 key.2) :
    g.Found decode find where
  baseUrl := h.baseUrl.map_eq (hfind ("backend", "base_url") (by decide)) hr.text
  confirmationPath := by
    -- Decoding gives the place of the word, reading gives what the word means.
    rw [Option.map_map]
    refine h.confirmationPath.map_eq (hfind ("backend", "confirmation_path") (by decide)) ?_
    intro i p hp
    obtain ⟨s, hs, hword⟩ := Option.bind_eq_some_iff.1 hp
    exact hr.word _ i s _ hs (finIdxOf?_of_ofWord? hword)
  connectSecs := h.connectSecs.map_eq (hfind ("timeouts", "connect_secs") (by decide)) (hr.count _)
  requestSecs := h.requestSecs.map_eq (hfind ("timeouts", "request_secs") (by decide)) (hr.count _)
  maxSessions := h.maxSessions.map_eq (hfind ("sessions", "max_sessions") (by decide)) (hr.count _)
  logLevel := h.logLevel.map_eq (hfind ("observability", "log_level") (by decide)) hr.text
  json := h.json.map_eq (hfind ("observability", "json") (by decide)) hr.flag

theorem Partial.From.length_le {r : Reader ι} {said : String → String → List ι} {g : Partial}
    (h : g.From r said) : ∀ key ∈ known, (said key.1 key.2).length ≤ 1 := by
  intro key hkey
  simp only [known, List.mem_cons, List.not_mem_nil, or_false] at hkey
  rcases hkey with rfl | rfl | rfl | rfl | rfl | rfl | rfl
  · exact h.baseUrl.length_le
  · exact h.confirmationPath.length_le
  · exact h.connectSecs.length_le
  · exact h.requestSecs.length_le
  · exact h.maxSessions.length_le
  · exact h.logLevel.length_le
  · exact h.json.length_le

end

/-! ## The members of the sections -/

namespace Partial

/-- The members that are given in the section `backend`. -/
def backend (g : Partial) : Backend.fields.Carrier :=
  (g.baseUrl, g.confirmationPath.map ConfirmationPath.index, ())

/-- The members that are given in the section `timeouts`. -/
def timeouts (g : Partial) : Timeouts.fields.Carrier := (g.connectSecs, g.requestSecs, ())

/-- The members that are given in the section `sessions`. -/
def sessions (g : Partial) : Sessions.fields.Carrier := (g.maxSessions, ())

/-- The members that are given in the section `observability`. -/
def observability (g : Partial) : Observability.fields.Carrier := (g.logLevel, g.json, ())

end Partial

theorem Backend.ofMembers_partial (g : Partial) : ofMembers g.backend = g.settings.backend := by
  obtain ⟨baseUrl, path, _, _, _, _, _⟩ := g
  cases path with
  | none => rfl
  | some p =>
    show ({ baseUrl := _, confirmationPath := .ofIndex p.index } : Backend) = _
    rw [ConfirmationPath.ofIndex_index]
    rfl

/-- **A section without members is no section**: settings are those that are given, whether or not
the others' sections are there. -/
theorem ofMembers_of_slots {g : Partial} {backend : Option Backend.fields.Carrier}
    {timeouts : Option Timeouts.fields.Carrier} {sessions : Option Sessions.fields.Carrier}
    {observability : Option Observability.fields.Carrier}
    (hbackend : backend.getD Backend.fields.none = g.backend)
    (htimeouts : timeouts.getD Timeouts.fields.none = g.timeouts)
    (hsessions : sessions.getD Sessions.fields.none = g.sessions)
    (hobservability : observability.getD Observability.fields.none = g.observability) :
    ofMembers (backend, timeouts, sessions, observability, ()) = g.settings := by
  -- The defaults of a section that is not there are those of a section without members.
  have hb : (backend.map Backend.ofMembers).getD (Backend.ofMembers Backend.fields.none) =
      g.settings.backend := by
    rw [Option.getD_map, hbackend, Backend.ofMembers_partial]
  have ht : (timeouts.map Timeouts.ofMembers).getD (Timeouts.ofMembers Timeouts.fields.none) =
      g.settings.timeouts := by
    rw [Option.getD_map, htimeouts]
    rfl
  have hs : (sessions.map Sessions.ofMembers).getD (Sessions.ofMembers Sessions.fields.none) =
      g.settings.sessions := by
    rw [Option.getD_map, hsessions]
    rfl
  have ho : (observability.map Observability.ofMembers).getD
      (Observability.ofMembers Observability.fields.none) = g.settings.observability := by
    rw [Option.getD_map, hobservability]
    rfl
  show Settings.mk _ _ _ _ = _
  exact congr (congr (congr (congrArg Settings.mk hb) ht) hs) ho

/-! ## TOML documents -/

/-- How the values of a TOML document are read. -/
def itemReader : Reader Toml.Item where
  text
    | .text _ s => some s
    | _ => none
  count
    | .integer _ n => if 0 ≤ n ∧ n < 0x10000000000000000 then some (UInt64.ofNat n.toNat) else none
    | _ => none
  flag
    | .flag _ b => some b
    | _ => none

/-- **The settings that a TOML document gives.** It may give them under headers, by names with dots
and in tables in braces, in any order. -/
structure Partial.InToml (g : Partial) (ss : List Statement) : Prop where
  /-- The document does not contradict itself. -/
  whole : Toml.Document.ofStatements? ss ≠ none
  /-- Its sections are tables, and what stands under a known key is no table of its lines. -/
  leads : ∀ key ∈ known, Leads [] ss [key.1, key.2]
  /-- Its lines give these settings. -/
  given : g.From itemReader fun s k => Toml.itemsAt (Statement.lines [] ss) [s, k]

instance (g : Partial) (ss : List Statement) : Decidable (g.InToml ss) :=
  decidable_of_iff
    (Toml.Document.ofStatements? ss ≠ none ∧ (∀ key ∈ known, Leads [] ss [key.1, key.2]) ∧
      g.From itemReader fun s k => Toml.itemsAt (Statement.lines [] ss) [s, k])
    ⟨fun ⟨whole, leads, given⟩ => ⟨whole, leads, given⟩,
      fun ⟨whole, leads, given⟩ => ⟨whole, leads, given⟩⟩

theorem itemReader_tells : itemReader.Tells Toml.ofItem where
  text item s h := by
    cases item with
    | text =>
      cases h
      rfl
    | _ => cases h
  count typeName item n h := by
    cases item with
    | integer span k =>
      obtain ⟨⟨hk, -⟩, heq⟩ := Option.ite_none_right_eq_some.1 h
      cases heq
      exact if_pos hk
    | _ => cases h
  flag item b h := by
    cases item with
    | flag =>
      cases h
      rfl
    | _ => cases h
  word choices item s k h hk := by
    cases item with
    | text span t =>
      cases h
      show Except.mapError _ (Toml.pickWord choices s) = _
      rw [Toml.pickWord, hk]
      rfl
    | _ => cases h

section

variable {g : Partial} {ss : List Statement} {e : Toml.Entries} {text : String}

/-- What the lines give stands in the tables. -/
theorem Partial.InToml.found (h : g.InToml ss) (he : Toml.Document.ofStatements? ss = some e) :
    g.Found Toml.ofItem (fun s k => e.at? [s, k]) ∧
      ∀ key ∈ known, Toml.IsOpen (e.find? key.1) := by
  have hat (key : String × String) (hkey : key ∈ known) :=
    Toml.at?_ofStatements? (List.cons_ne_nil _ _) (h.leads key hkey) he
  refine ⟨h.given.found itemReader_tells fun key hkey => (hat key hkey).1, fun key hkey => ?_⟩
  rw [← e.at?_singleton]
  exact (hat key hkey).2 [key.1] (List.cons_ne_nil _ _) ⟨[key.2], rfl⟩ (by simp)

/-- **The settings that a TOML document gives are read.** -/
theorem Partial.InToml.ofToml (hread : Statement.readAll text.toList = some ss)
    (h : g.InToml ss) : ofToml text = .ok g.settings := by
  obtain ⟨e, he⟩ := Option.ne_none_iff_exists'.1 h.whole
  obtain ⟨hfound, hopen⟩ := h.found he
  have hdistinct := Toml.ofStatements?_distinct hread he
  have hslot (key : String × String) (hkey : key ∈ known) (typeName : String) {fields : Fields}
      (c : fields.Carrier) (hs : fields.Single) (hmissing : fields.missing? c = none)
      (hfills : Toml.Fills (fun k => e.at? [key.1, k]) fields c) :=
    @Toml.exists_slot_of_fills fields c typeName hs hmissing _ (hopen key hkey)
      (fun _ hi => hdistinct.find? hi) hfills
  obtain ⟨backend, hbackend, hb⟩ :=
    hslot ("backend", "base_url") (by decide) "BackendConfig" g.backend (by decide) rfl
      ⟨hfound.baseUrl, hfound.confirmationPath, trivial⟩
  obtain ⟨timeouts, htimeouts, ht⟩ :=
    hslot ("timeouts", "connect_secs") (by decide) "TimeoutConfig" g.timeouts (by decide) rfl
      ⟨hfound.connectSecs, hfound.requestSecs, trivial⟩
  obtain ⟨sessions, hsessions, hs⟩ :=
    hslot ("sessions", "max_sessions") (by decide) "SessionConfig" g.sessions (by decide) rfl
      ⟨hfound.maxSessions, trivial⟩
  obtain ⟨observability, hobservability, ho⟩ :=
    hslot ("observability", "json") (by decide) "ObservabilityConfig" g.observability (by decide)
      rfl ⟨hfound.logLevel, hfound.json, trivial⟩
  have hitem : Toml.ofItem shape (.table .header none e) =
      .ok (backend, timeouts, sessions, observability, ()) :=
    Toml.ofItem_of_fills (by decide) rfl hdistinct
      ⟨hbackend, htimeouts, hsessions, hobservability, trivial⟩
  rw [Settings.ofToml, Toml.decode_of_ofItem hread he hitem]
  exact congrArg Except.ok (ofMembers_of_slots hb ht hs ho)

end

/-! ## JSON documents -/

/-- How the values of a JSON document are read. -/
def docReader : Reader Doc where
  text
    | .text s => s
    | _ => none
  count := Doc.count?
  flag
    | .flag b => some b
    | _ => none

/-- The members of the sections of a name. -/
def inside (name : String) (ms : List (Option String × Doc)) : List (Option String × Doc) :=
  (Doc.under [name] ms).flatMap Doc.members

/-- **The settings that a JSON document gives**, with its members in any order. -/
structure Partial.InJson (g : Partial) (ms : List (Option String × Doc)) : Prop where
  /-- No section stands twice. -/
  once : ∀ key ∈ known, (Doc.under [key.1] ms).length ≤ 1
  /-- Sections are objects. -/
  sections : ∀ key ∈ known, ∀ d ∈ Doc.under [key.1] ms, d.IsObject
  /-- The names in the document and in its sections are texts. -/
  names : ∀ m ∈ ms, m.1 ≠ none
  namesInside : ∀ key ∈ known, ∀ m ∈ inside key.1 ms, m.1 ≠ none
  /-- The members of the sections give these settings. -/
  given : g.From docReader fun s k => Doc.under [k] (inside s ms)

instance (g : Partial) (ms : List (Option String × Doc)) : Decidable (g.InJson ms) :=
  decidable_of_iff
    ((∀ key ∈ known, (Doc.under [key.1] ms).length ≤ 1) ∧
      (∀ key ∈ known, ∀ d ∈ Doc.under [key.1] ms, d.IsObject) ∧ (∀ m ∈ ms, m.1 ≠ none) ∧
      (∀ key ∈ known, ∀ m ∈ inside key.1 ms, m.1 ≠ none) ∧
      g.From docReader fun s k => Doc.under [k] (inside s ms))
    ⟨fun ⟨once, sections, names, namesInside, given⟩ =>
        ⟨once, sections, names, namesInside, given⟩,
      fun ⟨once, sections, names, namesInside, given⟩ =>
        ⟨once, sections, names, namesInside, given⟩⟩

theorem docReader_tells : docReader.Tells fun shape d => d.as? shape where
  text d s h := by
    cases d with
    | text => exact h
    | _ => cases h
  count typeName d n h := h
  flag d b h := by
    cases d with
    | flag => exact h
    | _ => cases h
  word choices d s k h hk := by
    cases d with
    | text =>
      cases h
      exact hk
    | _ => cases h

section

variable {g : Partial} {ms : List (Option String × Doc)} {text : String}

theorem head?_eq_some_iff_mem {α : Type} {l : List α} (h : l.length ≤ 1) (a : α) :
    l.head? = some a ↔ a ∈ l := by
  match l with
  | [] => simp
  | [b] => simp [eq_comm]
  | _ :: _ :: _ => exact absurd h (by simp)

/-- What the members of the sections give is what the sections hold. -/
theorem Partial.InJson.whole (h : g.InJson ms) :
    Doc.whole? Backend.fields (inside "backend" ms) = some g.backend ∧
      Doc.whole? Timeouts.fields (inside "timeouts" ms) = some g.timeouts ∧
      Doc.whole? Sessions.fields (inside "sessions" ms) = some g.sessions ∧
      Doc.whole? Observability.fields (inside "observability" ms) = some g.observability := by
  have hlength := h.given.length_le
  have hfound : g.Found (fun shape d => Doc.as? shape d)
      fun s k => (Doc.under [k] (inside s ms)).head? :=
    h.given.found docReader_tells fun key hkey d => head?_eq_some_iff_mem (hlength key hkey) d
  refine ⟨?_, ?_, ?_, ?_⟩
  · have hbaseUrl := Json.slot?_of_head? h.given.baseUrl.length_le hfound.baseUrl
    have hpath := Json.slot?_of_head? h.given.confirmationPath.length_le hfound.confirmationPath
    exact Doc.whole?_cons_eq_some_iff.2
      ⟨hbaseUrl, nofun, Doc.whole?_cons_eq_some_iff.2 ⟨hpath, nofun, rfl⟩⟩
  · have hconnect := Json.slot?_of_head? h.given.connectSecs.length_le hfound.connectSecs
    have hrequest := Json.slot?_of_head? h.given.requestSecs.length_le hfound.requestSecs
    exact Doc.whole?_cons_eq_some_iff.2
      ⟨hconnect, nofun, Doc.whole?_cons_eq_some_iff.2 ⟨hrequest, nofun, rfl⟩⟩
  · have hmax := Json.slot?_of_head? h.given.maxSessions.length_le hfound.maxSessions
    exact Doc.whole?_cons_eq_some_iff.2 ⟨hmax, nofun, rfl⟩
  · have hlevel := Json.slot?_of_head? h.given.logLevel.length_le hfound.logLevel
    have hjson := Json.slot?_of_head? h.given.json.length_le hfound.json
    exact Doc.whole?_cons_eq_some_iff.2
      ⟨hlevel, nofun, Doc.whole?_cons_eq_some_iff.2 ⟨hjson, nofun, rfl⟩⟩

/-- **The settings that a JSON document gives are read.** -/
theorem Partial.InJson.ofJson (htext : IsText (.object ms) text) (h : g.InJson ms) :
    ofJson text = .ok g.settings := by
  obtain ⟨hbackend, htimeouts, hsessions, hobservability⟩ := h.whole
  have hslot (key : String × String) (hkey : key ∈ known) (typeName : String) {fields : Fields}
      {c : fields.Carrier} (hwhole : Doc.whole? fields (inside key.1 ms) = some c) :=
    Json.exists_slot_of_whole? typeName (h.once key hkey) (h.sections key hkey)
      (h.namesInside key hkey) hwhole
  obtain ⟨backend, hbackend, hb⟩ :=
    hslot ("backend", "base_url") (by decide) "BackendConfig" hbackend
  obtain ⟨timeouts, htimeouts, ht⟩ :=
    hslot ("timeouts", "connect_secs") (by decide) "TimeoutConfig" htimeouts
  obtain ⟨sessions, hsessions, hs⟩ :=
    hslot ("sessions", "max_sessions") (by decide) "SessionConfig" hsessions
  obtain ⟨observability, hobservability, ho⟩ :=
    hslot ("observability", "json") (by decide) "ObservabilityConfig" hobservability
  have hwhole : Doc.whole? fields ms = some (backend, timeouts, sessions, observability, ()) :=
    Doc.whole?_cons_eq_some_iff.2 ⟨hbackend, nofun,
      Doc.whole?_cons_eq_some_iff.2 ⟨htimeouts, nofun,
        Doc.whole?_cons_eq_some_iff.2 ⟨hsessions, nofun,
          Doc.whole?_cons_eq_some_iff.2 ⟨hobservability, nofun, rfl⟩⟩⟩⟩
  have hdecode : Json.decode shape text = .ok (backend, timeouts, sessions, observability, ()) :=
    Json.decode_of_as? (by decide) (by decide) htext (Json.as?_object_of_whole? h.names hwhole)
  rw [Settings.ofJson, hdecode]
  exact congrArg Except.ok (ofMembers_of_slots hb ht hs ho)

end

/-! ## The result -/

/-- **Settings that are given in part are completed** one by one. What is read of a document are the
settings that it gives, each other one is its own default, and nothing else that the document says
counts. -/
theorem completed_of_text (g : Partial) (text : String) :
    (∀ ss, Statement.readAll text.toList = some ss → g.InToml ss → ofToml text = .ok g.settings) ∧
      ∀ ms, IsText (.object ms) text → g.InJson ms → ofJson text = .ok g.settings :=
  ⟨fun _ hread h => h.ofToml hread, fun _ htext h => h.ofJson htext⟩

/-- A document with a name with dots, a table in braces, a header and things of no meaning. -/
def mixedText : String :=
  "timeouts.connect_secs = 7\nsessions = \x7bmax_sessions = 9, hint = 1\x7d\n[backend]\n" ++
    "confirmation_path = \"view\"\n[other]\nbackend = 2\n"

/-- The settings that are given there. -/
def mixed : Partial :=
  { confirmationPath := some .view, connectSecs := some 7, maxSessions := some 9 }

/-- The members of a JSON document with a section, and with a member of no meaning. -/
def flagged : List (Option String × Doc) :=
  [(some "hint", .null), (some "observability", .object [(some "json", .flag true)])]

/-- Its text. -/
def flaggedText : String :=
  "\x7b\"hint\":null,\"observability\":\x7b\"json\":true\x7d\x7d"

theorem isText_flagged : IsText (.object flagged) flaggedText := by
  have hsection := Json.WritesMembers.plain "json" leads_nil (by decide) .true
    (.close Json.space_nil)
  have hmembers := Json.WritesMembers.plain "hint" leads_nil (by decide) .null
    (.plain "observability" leads_comma (by decide) (.object hsection) (.close Json.space_nil))
  exact ⟨[], _, [], Json.space_nil, .object hmembers, Json.space_nil, by rfl⟩

theorem mixed_completed :
    (∃ ss, Statement.readAll mixedText.toList = some ss ∧ mixed.InToml ss) ∧
      ofToml mixedText = .ok
        { backend := { confirmationPath := .view }
          timeouts := { connectSecs := 7 }
          sessions := { maxSessions := 9 } } ∧
      IsText (.object flagged) flaggedText ∧ ({ json := some true } : Partial).InJson flagged ∧
      ofJson flaggedText = .ok { observability := { json := true } } := by
  have hmixed : (Statement.readAll mixedText.toList).any (fun ss => decide (mixed.InToml ss)) =
      true := by decide +kernel
  obtain ⟨ss, hread, h⟩ := (Option.any_eq_true _ _).1 hmixed
  have hss : mixed.InToml ss := of_decide_eq_true h
  have hflagged : ({ json := some true } : Partial).InJson flagged := by decide
  exact ⟨⟨ss, hread, hss⟩, (completed_of_text mixed mixedText).1 ss hread hss, isText_flagged,
    hflagged, (completed_of_text _ flaggedText).2 flagged isText_flagged hflagged⟩

/-- A document with a name that is no text: a surrogate that stands alone. -/
def loneText : String := "\x7b\"\\ud800\":null\x7d"

/-- A member whose name is no text keeps a document from being read, although it gives nothing. -/
theorem lone_name_unread :
    IsText (.object [(none, .null)]) loneText ∧
      (∀ key ∈ known, Doc.under [key.1] [(none, .null)] = []) ∧
      Partial.From docReader (fun s k => Doc.under [k] (inside s [(none, .null)])) {} ∧
      ∀ s, ofJson loneText ≠ .ok s := by
  have hname : Json.WritesParts [.unit 0xD800] ['\\', 'u', 'd', '8', '0', '0', '"'] :=
    .unit (by decide) .close
  have hmembers := Json.WritesMembers.member leads_nil hname
    ⟨[], [], Json.space_nil, Json.space_nil, rfl⟩ .null (.close Json.space_nil)
  refine ⟨⟨[], _, [], Json.space_nil, .object hmembers, Json.space_nil, by rfl⟩, by decide,
    by decide, ?_⟩
  intro s h
  have hnone : (ofJson loneText).toOption = none := by decide +kernel
  rw [h] at hnone
  cases hnone

end Settings

end Teller
