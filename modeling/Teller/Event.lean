import Teller.Call
import Teller.ConfirmationPath
import Teller.Session.Id
import Teller.Text.Quoted

/-!
# Events

What the program logs, and the forms in which an event is written.

* `Event`: everything that can be logged, with `Event.level`, `Event.source`, `Event.message` and
  `Event.fields`.
* `Event.line`: an event on one line, without quotes and without its source.
* `Event.text`: an event as the terminal shows it.
* `Event.toJson`: an event as a JSON object.
-/

namespace Teller

/-- How important an event is. -/
inductive Level where
  | error
  | warn
  | info
  | debug
  | trace
deriving DecidableEq, Repr

namespace Level

/-- The name of a level. -/
def name : Level → String
  | .error => "ERROR"
  | .warn => "WARN"
  | .info => "INFO"
  | .debug => "DEBUG"
  | .trace => "TRACE"

/-- How much is logged at a level: it includes all levels of lower rank. -/
def rank : Level → Nat
  | .error => 1
  | .warn => 2
  | .info => 3
  | .debug => 4
  | .trace => 5

end Level

/-- The value of a field of an event. -/
inductive Field where
  /-- A text, between quotes where it matters. -/
  | text (s : String)
  /-- A text that is never quoted. -/
  | plain (s : String)
  | number (n : Nat)
deriving DecidableEq, Repr

/-- The part of the program that logs an event. -/
inductive Source where
  | settings
  | client
  | sessions
deriving DecidableEq, Repr

/-- The name of a part of the program. -/
def Source.name : Source → String
  | .settings => "online_banking::config::loader"
  | .client => "online_banking::client::banking"
  | .sessions => "online_banking::session::manager"

/-- What is logged. -/
inductive Event where
  /-- Settings are in force; the path is that of their file. -/
  | settingsLoaded (path : Option String) (baseUrl : String)
  /-- A client was made from settings. -/
  | clientReady (base : String) (confirmation : ConfirmationPath)
  /-- A call begins. -/
  | sending (call : Call)
  /-- The final answer to a call is there. -/
  | responded (url : String) (status : Nat)
  /-- A call failed. -/
  | failed (call : Call) (reason : String)
  | sessionCreated (id : SessionId)
  | sessionRemoved (id : SessionId)
  /-- No more sessions can be held. -/
  | limitReached (max : Nat)
deriving DecidableEq, Repr

namespace Event

/-- How important an event is. -/
def level : Event → Level
  | .settingsLoaded _ _ | .sending _ | .responded _ _ | .sessionCreated _ | .sessionRemoved _ =>
    .debug
  | .clientReady _ _ => .info
  | .failed _ _ | .limitReached _ => .warn

/-- The part of the program that logs an event. -/
def source : Event → Source
  | .settingsLoaded _ _ => .settings
  | .clientReady _ _ | .sending _ | .responded _ _ | .failed _ _ => .client
  | .sessionCreated _ | .sessionRemoved _ | .limitReached _ => .sessions

/-- What happened. -/
def message : Event → String
  | .settingsLoaded _ _ => "Configuration loaded"
  | .clientReady _ _ => "Banking client initialized"
  | .sending _ => "Sending request"
  | .responded _ _ => "Backend responded"
  | .failed _ _ => "Banking request failed"
  | .sessionCreated _ => "Session created"
  | .sessionRemoved _ => "Session removed"
  | .limitReached _ => "Session limit reached"

/-- The path of a file, or that there is none. -/
def pathText : Option String → String
  | some path => "Some(" ++ Text.quoted path ++ ")"
  | none => "None"

/-- The details of an event. -/
def fields : Event → List (String × Field)
  | .settingsLoaded path baseUrl => [("path", .plain (pathText path)), ("base_url", .plain baseUrl)]
  | .clientReady base confirmation =>
    [("base_url", .plain base), ("confirmation_path", .text confirmation.text)]
  | .sending call => [("endpoint", .text call.label)]
  | .responded url status => [("url", .plain url), ("status", .number status)]
  | .failed call reason => [("endpoint", .text call.label), ("error", .plain reason)]
  | .sessionCreated id | .sessionRemoved id => [("session_id", .plain id.text)]
  | .limitReached max => [("max_sessions", .number max)]

/-- The message of an event with its details, given how a detail is written. -/
def body (write : Field → String) (e : Event) : String :=
  " ".intercalate (e.message :: e.fields.map fun (name, value) => name ++ "=" ++ write value)

/-- A detail without quotes. -/
def writeBare : Field → String
  | .text s | .plain s => s
  | .number n => toString n

/-- A detail, texts between quotes. -/
def writeQuoted : Field → String
  | .text s => Text.quoted s
  | .plain s => s
  | .number n => toString n

/-- An event on one line, without quotes and without its source. -/
def line (e : Event) : String := e.level.name ++ " " ++ e.body writeBare

/-- An event as the terminal shows it. -/
def text (e : Event) : String :=
  e.level.name ++ " " ++ e.source.name ++ ": " ++ e.body writeQuoted

/-- A detail as a JSON value. -/
def fieldJson : Field → Json.Value
  | .text s | .plain s => .text s
  | .number n => .number (.integer n)

/-- An event as a JSON object, its members in the order of their names. -/
def toJson (e : Event) : Json.Value :=
  Json.Value.sorted <| .object [
    ("fields", .object (("message", .text e.message) ::
      e.fields.map fun (name, value) => (name, fieldJson value))),
    ("level", .text e.level.name), ("target", .text e.source.name)]

end Event

end Teller
