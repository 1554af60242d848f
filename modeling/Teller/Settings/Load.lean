import Teller.Event
import Teller.Settings.Problem
import Teller.Text.Blank
import Teller.Toml.Decode

/-!
# Settings in force

Settings come from a file, or else are the defaults; the environment and the command line each may
name another base URL. What results must make sense as a whole.

* `File`: what stands at the path of a settings file.
* `LoadError`: why there are no settings; `LoadError.message`: its wording.
* `Settings.load`: the settings in force; `Settings.loadLogged`: with what is logged of them.
-/

namespace Teller

namespace Settings

/-- What stands at the path of a file. -/
inductive File where
  | missing
  | directory
  /-- The system refuses to read it, in its own words. -/
  | refused (words : String)
  | bytes (content : List UInt8)
deriving DecidableEq, Repr

/-- Why a file cannot be read. -/
inductive FileFault where
  | missing
  | directory
  | refused (words : String)
  | notText
deriving DecidableEq, Repr

/-- The wording of the reason. -/
def FileFault.message : FileFault → String
  | .missing => "No such file or directory (os error 2)"
  | .directory => "Is a directory (os error 21)"
  | .refused words => words
  | .notText => "stream did not contain valid UTF-8"

/-- Why there are no settings. -/
inductive LoadError where
  /-- The file cannot be read. -/
  | file (fault : FileFault)
  /-- The file's text is no TOML, or has another shape. -/
  | document (error : Toml.Error)
  /-- The settings make no sense. -/
  | invalid (problems : List Problem)

/-- The wording of an error. -/
def LoadError.message : LoadError → String
  | .file fault => "IO error: " ++ fault.message
  | .document error => "Parse error: " ++ error.message
  | .invalid problems => "Validation failed: " ++ ", ".intercalate (problems.map Problem.message)

/-- The text of a file. -/
def File.text : File → Except FileFault String
  | .missing => .error .missing
  | .directory => .error .directory
  | .refused words => .error (.refused words)
  | .bytes content =>
    match Text.Utf8.decode? content with
    | some cs => .ok (String.ofList cs)
    | none => .error .notText

/-- Reads settings from a TOML text. -/
def ofToml (text : String) : Except Toml.Error Settings := ofMembers <$> Toml.decode shape text

/-- The settings of a file. -/
def ofFile (file : File) : Except LoadError Settings := do
  let text ← file.text.mapError .file
  (ofToml text).mapError .document

/-- The settings with another base URL. A blank one does not count. -/
def overrideBaseUrl (baseUrl : Option String) (s : Settings) : Settings :=
  match baseUrl with
  | some url =>
    if Text.allBlank url then s else { s with backend := { s.backend with baseUrl := url } }
  | none => s

/-- The settings, if they make sense. -/
def checked (s : Settings) : Except LoadError Settings :=
  match s.problems with
  | [] => .ok s
  | problems => .error (.invalid problems)

/-- **The settings in force**, given the file if there is one, and the base URLs of the environment
and of the command line. The last of them that is not blank counts. -/
def load (file : Option File) (environment commandLine : Option String) :
    Except LoadError Settings := do
  let s ←
    match file with
    | some file => ofFile file
    | none => .ok {}
  checked (overrideBaseUrl commandLine (overrideBaseUrl environment s))

/-- **The settings in force, with what is logged**: that they are in force, or nothing if there are
none. The file comes with its path. -/
def loadLogged (file : Option (String × File)) (environment commandLine : Option String) :
    Except LoadError Settings × List Event :=
  match load (file.map (·.2)) environment commandLine with
  | .ok s => (.ok s, [.settingsLoaded (file.map (·.1)) s.backend.baseUrl])
  | .error e => (.error e, [])

end Settings

end Teller
