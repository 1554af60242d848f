import Teller.Program

/-!
# Command line

Runs the program on the words of its command line, the settings file that they name and the
environment. No network is linked in, so every backend is out of reach.
-/

namespace Teller.Program

/-- What stands at a path. -/
def fileAt (path : String) : IO Settings.File := do
  match ← (IO.FS.readBinFile path).toBaseIO with
  | .ok content => return .bytes content.toList
  | .error (.noFileOrDirectory _ _ _) => return .missing
  | .error (.inappropriateType _ 21 _) => return .directory
  | .error error => return .refused (toString error)

/-- What the program finds around it. Of all files only that of the settings is looked at. -/
def surroundings (words : List String) : IO Surroundings := do
  let file ←
    match CommandLine.read words with
    | .run invocation => (invocation.config.mapM fileAt : IO (Option Settings.File))
    | _ => pure none
  let baseUrl ← IO.getEnv "BANKING_BASE_URL"
  let directives ← IO.getEnv "RUST_LOG"
  return { file := fun _ => file.getD .missing, baseUrl, directives,
           backend := Http.Backend.unreachable }

end Teller.Program

/-- Runs the program and writes what it says. -/
def main (words : List String) : IO UInt32 := do
  let run := Teller.Program.run (← Teller.Program.surroundings words) words
  IO.print run.output
  run.notices.forM IO.eprintln
  return UInt32.ofNat run.exitCode
