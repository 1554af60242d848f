import Teller.ConfirmationPath
import Teller.Json.Decode

/-!
# Settings

What can be set: the bank's address, how long to wait for it, how many sessions to hold, and what
to log. Every setting has a default.

* `Settings`: all settings, in four sections.
* `Settings.shape`, `Settings.ofMembers`: settings in a document of any notation; each member that
  is not given takes its own default.
* `Settings.ofJson`, `Settings.toJson`: settings as JSON texts.
-/

namespace Teller

open Schema (Shape Fields)

namespace Settings

/-- Where the bank is. -/
structure Backend where
  baseUrl : String := "http://localhost:28080"
  confirmationPath : ConfirmationPath := .payment
deriving DecidableEq, Repr

/-- How many seconds to wait for a connection, and for an answer. -/
structure Timeouts where
  connectSecs : UInt64 := 5
  requestSecs : UInt64 := 30
deriving DecidableEq, Repr

/-- How many sessions to hold at once. -/
structure Sessions where
  maxSessions : UInt64 := 1000
deriving DecidableEq, Repr

/-- What to log, and whether as JSON. -/
structure Observability where
  logLevel : String := "info"
  json : Bool := false
deriving DecidableEq, Repr

end Settings

/-- All settings. -/
structure Settings where
  backend : Settings.Backend := {}
  timeouts : Settings.Timeouts := {}
  sessions : Settings.Sessions := {}
  observability : Settings.Observability := {}
deriving DecidableEq, Repr

namespace Settings

namespace Backend

/-- The members of the section. -/
def fields : Fields :=
  .cons ⟨"base_url", [], false⟩ .text <|
  .cons ⟨"confirmation_path", [], false⟩ ConfirmationPath.shape .nil

/-- The shape of the section. -/
def shape : Shape := .object "BackendConfig" fields

/-- The section with the given members. -/
def ofMembers : fields.Carrier → Backend
  | (baseUrl, confirmationPath, ()) =>
    { baseUrl := Option.getD baseUrl ({} : Backend).baseUrl
      confirmationPath :=
        Option.getD (Option.map ConfirmationPath.ofIndex confirmationPath)
          ({} : Backend).confirmationPath }

/-- The section as a JSON value. -/
def toJson (s : Backend) : Json.Value :=
  .object [("base_url", .text s.baseUrl), ("confirmation_path", s.confirmationPath.toJson)]

end Backend

/-- A number of 64 bits as a JSON value. -/
def countJson (n : UInt64) : Json.Value := .number (.integer n.toNat)

namespace Timeouts

/-- The members of the section. -/
def fields : Fields :=
  .cons ⟨"connect_secs", [], false⟩ (.count "u64") <|
  .cons ⟨"request_secs", [], false⟩ (.count "u64") .nil

/-- The shape of the section. -/
def shape : Shape := .object "TimeoutConfig" fields

/-- The section with the given members. -/
def ofMembers : fields.Carrier → Timeouts
  | (connectSecs, requestSecs, ()) =>
    { connectSecs := Option.getD connectSecs ({} : Timeouts).connectSecs
      requestSecs := Option.getD requestSecs ({} : Timeouts).requestSecs }

/-- The section as a JSON value. -/
def toJson (s : Timeouts) : Json.Value :=
  .object [("connect_secs", countJson s.connectSecs), ("request_secs", countJson s.requestSecs)]

end Timeouts

namespace Sessions

/-- The members of the section. -/
def fields : Fields := .cons ⟨"max_sessions", [], false⟩ (.count "usize") .nil

/-- The shape of the section. -/
def shape : Shape := .object "SessionConfig" fields

/-- The section with the given members. -/
def ofMembers : fields.Carrier → Sessions
  | (maxSessions, ()) => { maxSessions := Option.getD maxSessions ({} : Sessions).maxSessions }

/-- The section as a JSON value. -/
def toJson (s : Sessions) : Json.Value := .object [("max_sessions", countJson s.maxSessions)]

end Sessions

namespace Observability

/-- The members of the section. -/
def fields : Fields :=
  .cons ⟨"log_level", [], false⟩ .text <| .cons ⟨"json", [], false⟩ .flag .nil

/-- The shape of the section. -/
def shape : Shape := .object "ObservabilityConfig" fields

/-- The section with the given members. -/
def ofMembers : fields.Carrier → Observability
  | (logLevel, json, ()) =>
    { logLevel := Option.getD logLevel ({} : Observability).logLevel
      json := Option.getD json ({} : Observability).json }

/-- The section as a JSON value. -/
def toJson (s : Observability) : Json.Value :=
  .object [("log_level", .text s.logLevel), ("json", .bool s.json)]

end Observability

/-- The sections. -/
def fields : Fields :=
  .cons ⟨"backend", [], false⟩ Backend.shape <|
  .cons ⟨"timeouts", [], false⟩ Timeouts.shape <|
  .cons ⟨"sessions", [], false⟩ Sessions.shape <|
  .cons ⟨"observability", [], false⟩ Observability.shape .nil

/-- The shape of settings. -/
def shape : Shape := .object "BankingConfig" fields

/-- The settings with the given sections. -/
def ofMembers : fields.Carrier → Settings
  | (backend, timeouts, sessions, observability, ()) =>
    { backend := Option.getD (Option.map Backend.ofMembers backend) {}
      timeouts := Option.getD (Option.map Timeouts.ofMembers timeouts) {}
      sessions := Option.getD (Option.map Sessions.ofMembers sessions) {}
      observability := Option.getD (Option.map Observability.ofMembers observability) {} }

/-- Reads settings from a JSON text. -/
def ofJson (text : String) : Except Json.Error Settings := ofMembers <$> Json.decode shape text

/-- Settings as a JSON value. -/
def toJson (s : Settings) : Json.Value :=
  .object [("backend", s.backend.toJson), ("timeouts", s.timeouts.toJson),
    ("sessions", s.sessions.toJson), ("observability", s.observability.toJson)]

end Settings

end Teller
