import Teller.Program
import Teller.Proofs.CommandLine.Spelling
import Teller.Proofs.Decision
import Teller.Proofs.Session.Run
import Teller.Proofs.Settings.Base

/-!
# The program and one session

A command line makes one call. It does what a session does that holds the record of its flags: the
same requests are sent, and the program succeeds exactly if the call does. Nothing is sent and
nothing shown if there are no settings in force, or if a decision is none.

* `recordOf`, `settingsOf`: the record and the settings that flags spell.
* `Command.demand`, `sessionReports`: what a session does of a command.
* `Settings.endpoints_of_load`: settings in force have endpoints.
* `Program.Run.Stops`, `Program.Run.Follows`: the two ways in which a run ends.
* `Agrees`, `agrees_of_read`: what becomes of every command line that is read.
-/

namespace Teller

open CommandLine (Command Invocation Flag Spells Fit)
open Http (Request Backend)

/-- **The record that flags spell.** A flag that is not given is empty, the TAN unset. -/
def recordOf (given : List (Flag × String)) : Record where
  tan := given.lookup .tan
  iban := (given.lookup .iban).getD ""
  consentId := (given.lookup .consentId).getD ""
  paymentId := (given.lookup .paymentId).getD ""

/-- The settings in force where flags are given. -/
def settingsOf (env : Surroundings) (given : List (Flag × String)) :
    Except Settings.LoadError Settings :=
  Settings.load ((given.lookup .config).map env.file) env.baseUrl (given.lookup .baseUrl)

/-! ## One session -/

/-- What a session is asked for by a command. -/
def CommandLine.Command.demand : Command → Demand
  | .confirmTan => .confirmTan
  | .consent text => .decideText text
  | .payment => .showPayment

/-- **What a session does of a command**: a new session takes the record, and makes the call. -/
def sessionReports (b : Backend) (e : Endpoints) (max : Nat) (record : Record) (c : Command) :
    List Report :=
  ((World.start e max).run
    [(b, .detached {}), (b, .save (.held 0) record), (b, .call (.held 0) c.demand)]).2

/-- Its call is one without a session, with the record that it took. -/
theorem sessionReports_eq (b : Backend) (e : Endpoints) (max : Nat) (record : Record)
    (c : Command) :
    ∃ w : World, w.endpoints = e ∧ w.received = [] ∧
      sessionReports b e max record c =
        [⟨.session 0, [], []⟩, ⟨.saved, [], []⟩, (w.performDirect b record c.demand).2] := by
  refine ⟨{ World.start e max with cells := [record] }, rfl, rfl, ?_⟩
  have hcall := World.await_pendingOf { World.start e max with cells := [record] } b 0 c.demand
  have hrecord : World.recordAt { World.start e max with cells := [record] } 0 = record := rfl
  rw [hrecord] at hcall
  rw [← hcall]
  rfl

variable {b : Backend} {e : Endpoints} {max : Nat} {record : Record} {c : Command}

/-- **A session that makes a call** reports what comes of it. -/
theorem sessionReports_of_order {o : Order} (h : c.demand.order? record = some o) :
    sessionReports b e max record c =
      [⟨.session 0, [], []⟩, ⟨.saved, [], []⟩,
        ⟨.called (o.perform b [] e).result, (o.perform b [] e).log,
          (o.perform b [] e).requests⟩] := by
  obtain ⟨w, rfl, hreceived, hreports⟩ := sessionReports_eq b e max record c
  rw [hreports, World.performDirect_of_order h]
  unfold World.perform
  rw [hreceived]

/-! ## Settings -/

namespace Settings

variable {s : Settings} {file : Option File} {environment commandLine : Option String}

/-- Settings in force have no problems. -/
theorem problems_of_load (h : load file environment commandLine = .ok s) : s.problems = [] := by
  have hchecked : ∃ merged, checked merged = .ok s := by
    cases file with
    | none => exact ⟨_, h⟩
    | some file =>
      change (ofFile file).bind _ = _ at h
      cases hfile : ofFile file with
      | error fault =>
        rw [hfile] at h
        cases h
      | ok own =>
        rw [hfile] at h
        exact ⟨_, h⟩
  obtain ⟨merged, hmerged⟩ := hchecked
  unfold checked at hmerged
  split at hmerged
  · rename_i hnone
    cases hmerged
    exact hnone
  · cases hmerged

/-- **Settings in force have endpoints.** -/
theorem endpoints_of_load (h : load file environment commandLine = .ok s) :
    ∃ e, Endpoints.ofSettings s = .ok (e, [e.ready]) := by
  have hkept : Rule.baseUrl.Kept s := problems_eq_nil_iff.1 (problems_of_load h) .baseUrl
  obtain ⟨⟨e, he, -⟩, -⟩ : TakenAsBase s.backend.baseUrl s.backend.confirmationPath :=
    takenAsBase_of_checked (baseUrlFault?_eq_none_iff.2 hkept)
  refine ⟨e, ?_⟩
  unfold Endpoints.ofSettings
  rw [he]
  rfl

end Settings

/-! ## Runs -/

namespace Program

/-- The requests of a run. -/
def Run.requests : Run → List Request
  | .executed execution => execution.requests
  | .help _ | .refused _ => []

/-- Why a run comes to nothing. -/
def Run.failure? : Run → Option Failure
  | .executed ⟨.error failure, _, _⟩ => some failure
  | _ => none

/-- **A run that comes to nothing** before anything is sent or shown. -/
structure Run.Stops (run : Run) (failure : Failure) : Prop where
  requests : run.requests = []
  output : run.output = ""
  exitCode : run.exitCode = 1
  failure : run.failure? = some failure

/-- **A run that does what a session does** whose call has a result. -/
structure Run.Follows (run : Run) (reports : List Report) (result : Except CallError CallResult) :
    Prop where
  requests : run.requests = reports.flatMap Report.requests
  call : reports.getLast?.map Report.answer = some (.called result)
  /-- It succeeds exactly if the call does, … -/
  exitCode : run.exitCode = 0 ↔ ∃ r, result = .ok r
  /-- … and shows something exactly then. -/
  output : run.output ≠ "" ↔ ∃ r, result = .ok r
  /-- If not, it fails as the call does. -/
  failure : ∀ error, result = .error error → run.failure? = some (.call error)

theorem stops_of_failure (failure : Failure) (log : List String) :
    (Run.executed ⟨.error failure, log, []⟩).Stops failure := ⟨rfl, rfl, rfl, rfl⟩

end Program

theorem append_ne_empty {t : String} (h : t ≠ "") (s : String) : s ++ t ≠ "" := by
  rw [Ne, String.append_eq_empty_iff, not_and]
  exact fun _ => h

/-- **Every result shows something.** -/
theorem CallResult.shown_ne_empty (r : CallResult) (paymentId : String) :
    r.shown paymentId ≠ "" := by
  rcases r with ⟨status, value | text | _⟩ | _ | p
  · exact append_ne_empty (by decide) value.indented
  · exact append_ne_empty (by decide) text
  · exact append_ne_empty (by decide) ("Backend answered " ++ toString status)
  · exact append_ne_empty (by decide) ("No payment found for id '" ++ paymentId)
  · exact append_ne_empty (by decide) p.toJson.indented

namespace Program

/-- An execution that makes a call. -/
theorem follows_of_performed {p : Order.Performed} {reports : List Report} (paymentId : String)
    (log : List String) (hrequests : p.requests = reports.flatMap Report.requests)
    (hcall : reports.getLast?.map Report.answer = some (.called p.result)) :
    (Run.executed ⟨(p.result.map (·.shown paymentId)).mapError .call, log, p.requests⟩).Follows
      reports p.result := by
  cases hp : p.result with
  | error error =>
    rw [hp] at hcall
    refine ⟨hrequests, hcall, ?_, ?_, ?_⟩
    · exact iff_of_false Nat.one_ne_zero (by rintro ⟨_, ⟨⟩⟩)
    · exact iff_of_false (fun h => h rfl) (by rintro ⟨_, ⟨⟩⟩)
    · rintro _ ⟨⟩
      rfl
  | ok r =>
    rw [hp] at hcall
    refine ⟨hrequests, hcall, ?_, ?_, ?_⟩
    · exact iff_of_true rfl ⟨r, rfl⟩
    · exact iff_of_true (r.shown_ne_empty paymentId) ⟨r, rfl⟩
    · rintro _ ⟨⟩

end Program

/-! ## Command lines -/

namespace CommandLine

variable {i : Invocation} {c : Command} {text : String}

/-- A command makes a session do something, unless its decision is none. -/
theorem Command.order?_of_decided (record : Record)
    (h : ∀ text, c = .consent text → ∃ d, Decision.Names text d) :
    ∃ o, c.demand.order? record = some o := by
  cases c with
  | confirmTan => exact ⟨_, rfl⟩
  | payment => exact ⟨_, rfl⟩
  | consent text =>
    obtain ⟨d, hd⟩ := h text rfl
    have htext := Decision.ofText?_eq_some_iff.2 hd
    exact ⟨.consent record d, congrArg (Option.map (Order.consent record)) htext⟩

namespace Invocation

/-- **The order of an invocation** is what a session makes of its command. -/
theorem order_of_demand {o : Order} (h : i.command.demand.order? i.record = some o) :
    i.order = .ok o := by
  obtain ⟨config, baseUrl, record, command⟩ := i
  cases command with
  | confirmTan | payment =>
    cases h
    rfl
  | consent text =>
    obtain ⟨d, hd, rfl⟩ := Option.map_eq_some_iff.1 h
    unfold order
    dsimp only
    rw [hd]

theorem order_of_undecided (h : i.command = .consent text)
    (hnone : ∀ d, ¬ Decision.Names text d) : i.order = .error (.undecided text) := by
  unfold order
  rw [h]
  dsimp only
  rw [Decision.ofText?_eq_none_iff.2 hnone]

/-- Where settings are in force, the call is made. -/
theorem execute_of_settings {env : Surroundings} {s : Settings} {e : Endpoints} {log : List Event}
    (h : i.settings env = .ok s) (he : Endpoints.ofSettings s = .ok (e, log)) :
    i.execute env = i.call env s e log := by
  unfold execute
  rw [h]
  dsimp only
  rw [he]

end Invocation

end CommandLine

/-- **What becomes of a command line** that gives flags and a command. -/
structure Agrees (env : Surroundings) (words : List String) (given : List (Flag × String))
    (c : Command) (max : Nat) : Prop where
  /-- Without settings it comes to nothing, … -/
  unsettled : ∀ error, settingsOf env given = .error error →
    (Program.run env words).Stops (.settings error)
  /-- … and so it does with a decision that is none. -/
  undecided : ∀ s text, settingsOf env given = .ok s → c = .consent text →
    (∀ d, ¬ Decision.Names text d) → (Program.run env words).Stops (.undecided text)
  /-- Otherwise it does what one session does over the endpoints of the settings. -/
  follows : ∀ s, settingsOf env given = .ok s →
    (∀ text, c = .consent text → ∃ d, Decision.Names text d) →
    ∃ e result, Endpoints.ofSettings s = .ok (e, [e.ready]) ∧
      (Program.run env words).Follows
        (sessionReports env.backend e max (recordOf given) c) result

/-- **The command line agrees with sessions**: of every command line that is read, every file,
environment and backend. -/
theorem agrees_of_read {words : List String} {i : Invocation} (h : CommandLine.read words = .run i)
    (env : Surroundings) (max : Nat) :
    ∃ given, Spells words given i.command ∧ Fit given ∧ Agrees env words given i.command max := by
  have hrun : Program.run env words = .executed (i.execute env) := by
    unfold Program.run
    rw [h]
  obtain ⟨given, c, hspells, hfit, rfl⟩ := CommandLine.read_eq_run_iff.1 h
  -- What was read says nothing but what the flags spell.
  generalize hi : CommandLine.Settled.invocation { given } c = i at h hrun
  have hrecord : i.record = recordOf given := by rw [← hi]; rfl
  have hcommand : i.command = c := by rw [← hi]; rfl
  have hload : i.settings env = (settingsOf env given).mapError .settings := by
    rw [← hi]
    rfl
  rw [hcommand]
  refine ⟨given, hspells, hfit, ?_, ?_, ?_⟩
  · intro error hsettings
    rw [hsettings] at hload
    rw [hrun]
    unfold CommandLine.Invocation.execute
    rw [hload]
    exact Program.stops_of_failure _ []
  · intro s text hsettings hconsent hnone
    obtain ⟨e, he⟩ := Settings.endpoints_of_load hsettings
    rw [hsettings] at hload
    rw [hrun, CommandLine.Invocation.execute_of_settings hload he]
    unfold CommandLine.Invocation.call
    rw [CommandLine.Invocation.order_of_undecided (hcommand.trans hconsent) hnone]
    exact Program.stops_of_failure _ _
  · intro s hsettings hdecided
    obtain ⟨e, he⟩ := Settings.endpoints_of_load hsettings
    obtain ⟨o, ho⟩ := CommandLine.Command.order?_of_decided (recordOf given) hdecided
    -- The program and the session perform one order over the same endpoints.
    rw [hsettings] at hload
    refine ⟨e, (o.perform env.backend [] e).result, he, ?_⟩
    rw [← hcommand, ← hrecord] at ho
    rw [hrun, CommandLine.Invocation.execute_of_settings hload he]
    unfold CommandLine.Invocation.call
    rw [CommandLine.Invocation.order_of_demand ho]
    rw [hcommand, hrecord] at ho
    refine Program.follows_of_performed _ _ ?_ ?_
    · rw [sessionReports_of_order ho]
      exact (List.append_nil _).symm
    · rw [sessionReports_of_order ho]
      rfl

/-- A command line with a flag in two words and one in one word. -/
theorem agrees_consent :
    CommandLine.read ["-b", "http://bank.local", "--iban=DE1", "consent", "accepted"] =
      .run ⟨none, some "http://bank.local", { iban := "DE1" }, .consent "accepted"⟩ ∧
    ∃ given, Spells ["-b", "http://bank.local", "--iban=DE1", "consent", "accepted"] given
        (.consent "accepted") ∧ Fit given ∧
      Agrees { file := fun _ => .missing, backend := .ofList [] }
        ["-b", "http://bank.local", "--iban=DE1", "consent", "accepted"] given
        (.consent "accepted") 8 := by
  have hread : CommandLine.read ["-b", "http://bank.local", "--iban=DE1", "consent", "accepted"] =
      .run ⟨none, some "http://bank.local", { iban := "DE1" }, .consent "accepted"⟩ := by
    decide +kernel
  exact ⟨hread, agrees_of_read hread _ 8⟩

end Teller
