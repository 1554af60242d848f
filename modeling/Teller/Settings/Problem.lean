import Teller.Settings.Basic
import Teller.Url.Read

/-!
# Problems with settings

Settings that can be read need not make sense.

* `Problem`: what can be wrong; `Problem.message`: its wording.
* `Settings.problems`: everything that is wrong with some settings, in a fixed order.
-/

namespace Teller

namespace Settings

/-- Why a text is no base URL. -/
inductive BaseUrlFault where
  | unreadable (cause : UrlError)
  | scheme (name : String)
  | noHost
  | query
deriving DecidableEq, Repr

/-- The wording of the reason. -/
def BaseUrlFault.message : BaseUrlFault → String
  | .unreadable cause => cause.message
  | .scheme name => "unsupported scheme '" ++ name ++ "'"
  | .noHost => "missing host"
  | .query => "must not carry a query string"

/-- The settings that count something and may not be zero. -/
inductive Counted where
  | connectSecs
  | requestSecs
  | maxSessions
deriving DecidableEq, Repr

/-- The place of a setting. -/
def Counted.name : Counted → String
  | .connectSecs => "timeouts.connect_secs"
  | .requestSecs => "timeouts.request_secs"
  | .maxSessions => "sessions.max_sessions"

/-- The value of a setting. -/
def Counted.value (s : Settings) : Counted → UInt64
  | .connectSecs => s.timeouts.connectSecs
  | .requestSecs => s.timeouts.requestSecs
  | .maxSessions => s.sessions.maxSessions

/-- All of them. -/
def Counted.all : List Counted := [.connectSecs, .requestSecs, .maxSessions]

/-- Something wrong with settings. -/
inductive Problem where
  | baseUrl (text : String) (fault : BaseUrlFault)
  | zero (what : Counted)
  | logLevel (text : String)
deriving DecidableEq, Repr

/-- The wording of a problem. -/
def Problem.message : Problem → String
  | .baseUrl text fault => "backend.base_url '" ++ text ++ "' is invalid: " ++ fault.message
  | .zero what => what.name ++ " must be greater than zero"
  | .logLevel text =>
    "observability.log_level '" ++ text ++ "' is not one of trace, debug, info, warn, error"

/-- What is wrong with the text of a base URL. -/
def baseUrlFault? (text : String) : Option BaseUrlFault :=
  match Url.ofText text with
  | .error cause => some (.unreadable cause)
  | .ok url =>
    if url.scheme ≠ "http" ∧ url.scheme ≠ "https" then some (.scheme url.scheme)
    else if url.host?.isNone then some .noHost
    else if url.query.isSome then some .query
    else none

/-- The words for log levels. -/
def logLevels : List String := ["trace", "debug", "info", "warn", "error"]

/-- **Everything that is wrong with settings.** -/
def problems (s : Settings) : List Problem :=
  ((baseUrlFault? s.backend.baseUrl).map (Problem.baseUrl s.backend.baseUrl)).toList ++
    (Counted.all.filter (·.value s == 0)).map Problem.zero ++
    (if s.observability.logLevel.map Char.toLower ∈ logLevels then []
      else [Problem.logLevel s.observability.logLevel])

end Settings

end Teller
