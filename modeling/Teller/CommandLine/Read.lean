import Teller.CommandLine.Help
import Teller.Record

/-!
# Reading a command line

Flags come first, then a command with its arguments. The value of a flag is part of its word or the
next word; a flag is set only once.

* `Invocation`: what a command line asks for; `Invocation.record`: the record that its flags spell.
* `UsageError`: why a command line is refused; `UsageError.message`: its wording.
* `Reading`: an invocation, a page of help or a refusal.
* `Settled`: the flags that are read so far, of which the last may still wait for its value.
* `Command.read`: the words behind a command's name; `CommandLine.read`: a whole command line.
-/

namespace Teller.CommandLine

/-- What to do. -/
inductive Command where
  | confirmTan
  /-- The decision is a text that may turn out not to be one. -/
  | consent (decision : String)
  | payment
deriving DecidableEq, Repr

/-- What a command line asks for. -/
structure Invocation where
  /-- The path of a settings file. -/
  config : Option String := none
  baseUrl : Option String := none
  record : Record := {}
  command : Command
deriving DecidableEq, Repr

/-- Why a command line is refused. -/
inductive UsageError where
  /-- There is nothing on it. -/
  | nothing
  /-- There are flags, but no command. -/
  | noCommand
  | unknownCommand (word : String)
  /-- A word that cannot stand where it does. -/
  | unexpected (word : String)
  | noValue (flag : Flag)
  | repeated (flag : Flag)
  /-- A value for the flag that asks for help. -/
  | helpValue (value : String)
  /-- A consent without a decision. -/
  | noDecision
deriving DecidableEq, Repr

/-- The first line of a refusal. Who says nothing is told what the program is for. -/
def UsageError.message : UsageError → String
  | .nothing => Topic.about .program
  | .noCommand =>
    "error: '" ++ Topic.name .program ++ "' requires a subcommand but one was not provided"
  | .unknownCommand word => "error: unrecognized subcommand '" ++ word ++ "'"
  | .unexpected word => "error: unexpected argument '" ++ word ++ "' found"
  | .noValue flag => "error: a value is required for '" ++ flag.term ++ "' but none was supplied"
  | .repeated flag => "error: the argument '" ++ flag.term ++ "' cannot be used multiple times"
  | .helpValue value =>
    "error: unexpected value '" ++ value ++ "' for '--help' found; no more were expected"
  | .noDecision => "error: the following required arguments were not provided:"

/-- What a command line comes to. -/
inductive Reading where
  | run (invocation : Invocation)
  | help (topic : Topic)
  | refused (error : UsageError)
deriving DecidableEq, Repr

/-- Goes on with what is read, unless that is a refusal. -/
def Reading.andThen {α : Type} (read : Except UsageError α) (next : α → Reading) : Reading :=
  match read with
  | .ok a => next a
  | .error e => .refused e

/-! ### Flags -/

/-- The flags that are read so far. The last of them is open until the next begins: it may wait for
its value, and it is looked at only when it is closed. -/
structure Settled where
  given : List (Flag × String) := []
  opened : Option (Flag × Option String) := none
deriving DecidableEq, Repr

namespace Settled

/-- Sets a flag. It must not be set before, and a path must not be empty. -/
def set (s : Settled) (f : Flag) (value : String) : Except UsageError Settled :=
  if s.given.any (·.1 == f) then .error (.repeated f)
  else if f = .config ∧ value = "" then .error (.noValue f)
  else .ok { given := s.given ++ [(f, value)] }

/-- Closes the open flag, which needs a value by now. -/
def close (s : Settled) : Except UsageError Settled :=
  match s.opened with
  | none => .ok s
  | some (f, none) => .error (.noValue f)
  | some (f, some value) => s.set f value

/-- Begins a flag. One that has its value in its word is set at once. -/
def begin (s : Settled) (f : Flag) (attached : Option String) : Except UsageError Settled := do
  let s ← s.close
  match attached with
  | some value => s.set f value
  | none => return { s with opened := some (f, none) }

/-- The value of a flag, if it is set. -/
def value? (s : Settled) (f : Flag) : Option String := s.given.lookup f

/-- What the flags say of a command. Flags of the record that are not set are empty, the TAN is
unset. -/
def invocation (s : Settled) (command : Command) : Invocation where
  config := s.value? .config
  baseUrl := s.value? .baseUrl
  record :=
    { tan := s.value? .tan
      iban := (s.value? .iban).getD ""
      consentId := (s.value? .consentId).getD ""
      paymentId := (s.value? .paymentId).getD "" }
  command

end Settled

/-! ### Commands -/

/-- A call for help on a command's own words, or the refusal of a value for it. -/
def helpOn (topic : Topic) : Option String → Reading
  | some value => .refused (.helpValue value)
  | none => .help topic

namespace Command

/-- The words of a command that has no arguments. -/
def readBare (topic : Topic) (next : Reading) (divided : Bool) : List String → Reading
  | [] => next
  | w :: rest =>
    if divided then .refused (.unexpected w)
    else
      match Word.ofText [] w with
      | .divider => readBare topic next true rest
      | .help attached => helpOn topic attached
      | .unknown shown => .refused (.unexpected shown)
      | .flag _ _ | .plain _ => .refused (.unexpected w)

/-- The words of a consent: one of them, the decision. -/
def readConsent (next : String → Reading) (divided : Bool) (decision : Option String) :
    List String → Reading
  | [] =>
    match decision with
    | some d => next d
    | none => .refused .noDecision
  | w :: rest =>
    let word := if divided then .plain w else Word.ofText [] w
    match word with
    | .divider => readConsent next true decision rest
    | .help attached => helpOn .consent attached
    | .unknown shown => .refused (.unexpected shown)
    | .flag _ _ | .plain _ =>
      match decision with
      | some _ => .refused (.unexpected w)
      | none => readConsent next divided (some w) rest

/-- The page that words behind `help` name, each a command of the one before. Only the program has
commands. -/
def readHelp (topic : Topic) : List String → Reading
  | [] => .help topic
  | w :: rest =>
    match topic, Topic.ofName? w with
    | .program, some t => readHelp t rest
    | _, _ => .refused (.unknownCommand w)

/-- **The words behind a command's name**, and what is to be done with the command. -/
def read (topic : Topic) (next : Command → Reading) (words : List String) : Reading :=
  match topic with
  | .confirmTan => readBare topic (next .confirmTan) false words
  | .consent => readConsent (fun d => next (.consent d)) false none words
  | .payment => readBare topic (next .payment) false words
  | .help | .program => readHelp .program words

end Command

/-! ### Command lines -/

/-- The end of a command line without a command. -/
def finish (s : Settled) : Reading :=
  Reading.andThen s.close fun s =>
    .refused (if s.given.isEmpty then .nothing else .noCommand)

/-- A word that is no flag, where a command is due. -/
def afterFlags (s : Settled) (w : String) (rest : List String) : Reading :=
  match Topic.ofName? w with
  | some topic =>
    Command.read topic (fun c => Reading.andThen s.close fun s => .run (s.invocation c)) rest
  | none => .refused (.unknownCommand w)

/-- The words from a place on. An open flag without value takes the next plain word, even if that
is a command's name. Mistakes in the words of a command count before one in the open flag. -/
def readFrom (s : Settled) : List String → Reading
  | [] => finish s
  | w :: rest =>
    match Word.ofText Flag.all w with
    | .divider =>
      match rest with
      | [] => finish s
      | w :: _ =>
        .refused (if (Topic.ofName? w).isSome then .unexpected w else .unknownCommand w)
    | .flag f attached =>
      match s.begin f attached with
      | .ok s => readFrom s rest
      | .error e => .refused e
    | .help (some value) => .refused (.helpValue value)
    | .help none => Reading.andThen s.close fun _ => .help .program
    | .unknown shown => .refused (.unexpected shown)
    | .plain _ =>
      match s.opened with
      | some (f, none) => readFrom { s with opened := some (f, some w) } rest
      | _ => afterFlags s w rest

/-- **What a command line comes to.** -/
def read (words : List String) : Reading := readFrom {} words

end Teller.CommandLine
