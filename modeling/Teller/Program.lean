import Teller.Client
import Teller.CommandLine.Read
import Teller.LogFilter
import Teller.Settings.Load

/-!
# The program

A command line makes one call for one record.

* `Surroundings`: what the program finds around it.
* `Failure`: why it comes to nothing; `Failure.kind`: the name of that.
* `Invocation.order`: the order that an invocation gives.
* `Invocation.execute`: an invocation from its settings to what it shows.
* `Program.run`: a whole run.
-/

namespace Teller

open CommandLine (Command Invocation)

/-- What the program finds around it. -/
structure Surroundings where
  /-- What stands at a path. -/
  file : String → Settings.File
  /-- The base URL of the environment. -/
  baseUrl : Option String := none
  /-- The directives of the environment that say what is logged. -/
  directives : Option String := none
  backend : Http.Backend

/-- Why the program comes to nothing. -/
inductive Failure where
  | settings (error : Settings.LoadError)
  | endpoints (error : EndpointError)
  /-- A text that is no decision. -/
  | undecided (text : String)
  | call (error : CallError)

/-- The name of a failure, with which the report of it begins. -/
def Failure.kind : Failure → String
  | .settings (.file _) => "Io"
  | .settings (.document _) => "Parse"
  | .settings (.invalid _) => "Validation"
  | .endpoints (.url _) => "InvalidUrl"
  | .endpoints (.flat _) => "InvalidArgument"
  | .undecided _ => "InvalidArgument"
  | .call (.transport _) => "Transport"
  | .call (.status _ _) => "Status"
  | .call (.decode _ _) => "Decode"

/-- What comes of an invocation: what it shows or why it fails, what it logs, and the requests that
reach the backend. -/
structure Execution where
  result : Except Failure String
  log : List String := []
  requests : List Http.Request := []

/-- An event as it is logged. -/
def Settings.logged (s : Settings) (e : Event) : String :=
  if s.observability.json then e.toJson.compact else e.text

/-- The lines of those events that are to be logged. -/
def Settings.lines (s : Settings) (directives : Option String) (events : List Event) :
    List String :=
  (events.filter (LogFilter.inForce s.observability.logLevel directives).enables).map s.logged

/-- What is shown of a result. -/
def CallResult.shown (paymentId : String) : CallResult → String
  | .confirmation ⟨status, body⟩ =>
    match body with
    | .json v => v.indented ++ "\n"
    | .text s => s ++ "\n"
    | .empty => "Backend answered " ++ toString status ++ " with no body\n"
  | .payment (some p) => p.toJson.indented ++ "\n"
  | .payment none => "No payment found for id '" ++ paymentId ++ "'\n"

namespace CommandLine.Invocation

/-- The order that an invocation gives, unless its decision is none. -/
def order (i : Invocation) : Except Failure Order :=
  match i.command with
  | .confirmTan => .ok (.tanConfirmation i.record)
  | .consent text =>
    match Decision.ofText? text with
    | some d => .ok (.consent i.record d)
    | none => .error (.undecided text)
  | .payment => .ok (.singlePayments i.record)

/-- The settings that an invocation finds in force. -/
def settings (env : Surroundings) (i : Invocation) : Except Failure Settings :=
  (Settings.load (i.config.map env.file) env.baseUrl i.baseUrl).mapError .settings

/-- What is done once the endpoints are known: the order is given and its result shown. `log` is
what was logged before. -/
def call (env : Surroundings) (s : Settings) (e : Endpoints) (log : List Event) (i : Invocation) :
    Execution :=
  match i.order with
  | .error failure => ⟨.error failure, s.lines env.directives log, []⟩
  | .ok order =>
    let p := order.perform env.backend [] e
    ⟨(p.result.map (·.shown i.record.paymentId)).mapError .call,
      s.lines env.directives (log ++ p.log), p.requests⟩

/-- **An invocation from its settings to what it shows.** Nothing is logged before the settings are
in force. -/
def execute (env : Surroundings) (i : Invocation) : Execution :=
  match i.settings env with
  | .error failure => ⟨.error failure, [], []⟩
  | .ok s =>
    match Endpoints.ofSettings s with
    | .error error => ⟨.error (.endpoints error), [], []⟩
    | .ok (e, log) => i.call env s e log

end CommandLine.Invocation

namespace Program

/-- What a run comes to. -/
inductive Run where
  | executed (execution : Execution)
  | help (page : String)
  | refused (error : CommandLine.UsageError)

/-- **A run of the program** with the words of its command line. -/
def run (env : Surroundings) (words : List String) : Run :=
  match CommandLine.read words with
  | .run invocation => .executed (invocation.execute env)
  | .help topic => .help topic.page.text
  | .refused error => .refused error

namespace Run

/-- The exit code. -/
def exitCode : Run → Nat
  | .executed execution =>
    match execution.result with
    | .ok _ => 0
    | .error _ => 1
  | .help _ => 0
  | .refused _ => 2

/-- What is written to standard output. -/
def output : Run → String
  | .executed execution => (execution.result.toOption).getD ""
  | .help page => page
  | .refused _ => ""

/-- The lines that are written to standard error. The report of a failure would show the insides of
errors that other libraries make; only its beginning is here. -/
def notices : Run → List String
  | .executed execution =>
    execution.log ++
      match execution.result with
      | .ok _ => []
      | .error failure => ["Error: " ++ failure.kind]
  | .help _ => []
  | .refused .nothing => [CommandLine.Topic.program.page.text]
  | .refused error => [error.message, "", "For more information, try '--help'."]

end Run

end Program

end Teller
