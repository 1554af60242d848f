import Teller.CommandLine.Flag

/-!
# Help

* `Topic`: what help can be about; `Topic.ofName?`: the topic of a command's name.
* `Page`: a page of help; `Page.text`: the page as it is shown.
* `Topic.page`: the page of a topic.
-/

namespace Teller.CommandLine

/-- What help can be about: the program, or one of its commands. -/
inductive Topic where
  | program
  | confirmTan
  | consent
  | payment
  | help
deriving DecidableEq, Repr

namespace Topic

/-- The commands, in the order in which help lists them. -/
def commands : List Topic := [.confirmTan, .consent, .payment, .help]

/-- The name of a command. -/
def name : Topic → String
  | .program => "online-banking"
  | .confirmTan => "confirm-tan"
  | .consent => "consent"
  | .payment => "payment"
  | .help => "help"

/-- The command of a name. Names are exact. -/
def ofName? (name : String) : Option Topic := commands.find? (·.name == name)

/-- What a topic is about. -/
def about : Topic → String
  | .program => "Confirm TANs, decide consents and fetch payments against the ASPSP mock server"
  | .confirmTan => "Submit the TAN for the pending payment"
  | .consent => "Accept or reject the pending consent"
  | .payment => "Show the payment referenced by --payment-id"
  | .help => "Print this message or the help of the given subcommand(s)"

end Topic

/-- A page of help. -/
structure Page where
  about : String
  usage : String
  /-- Titles with the terms that stand below them and what these mean. -/
  sections : List (String × List (String × String))

namespace Page

/-- A text with spaces behind it, `width` characters wide at least. -/
def padded (width : Nat) (s : String) : String := s ++ "".pushn ' ' (width - s.length)

/-- A section: all meanings start two columns behind the longest term. -/
def sectionText (title : String) (rows : List (String × String)) : String :=
  let width := (rows.map (·.1.length)).foldl max 0
  "\n" ++ title ++ ":\n" ++
    String.join (rows.map fun (term, meaning) =>
      "  " ++ padded width term ++ "  " ++ meaning ++ "\n")

/-- The page as it is shown. -/
def text (p : Page) : String :=
  p.about ++ "\n\nUsage: " ++ p.usage ++ "\n" ++
    String.join (p.sections.map fun (title, rows) => sectionText title rows)

end Page

/-- What a flag sets, or what it is set to if it is not given. -/
def Flag.meaning : Flag → String
  | .config => "TOML configuration file"
  | .baseUrl => "Overrides backend.base_url from the configuration"
  | .iban | .consentId | .paymentId => "[default: \"\"]"
  | .tan => ""

/-- The line of a flag in help. -/
def Flag.row (f : Flag) : String × String :=
  let lead :=
    match f.letter? with
    | some c => String.ofList ['-', c] ++ ", "
    | none => "    "
  (lead ++ f.term, f.meaning)

/-- The line of help itself. -/
def helpRow : String × String := ("-h, --help", "Print help")

/-- **The page of a topic.** -/
def Topic.page (t : Topic) : Page where
  about := t.about
  usage := Topic.name .program ++
    match t with
    | .program => " [OPTIONS] <COMMAND>"
    | .consent => " consent <DECISION>"
    | .help => " help [COMMAND]..."
    | _ => " " ++ t.name
  sections :=
    match t with
    | .program =>
      [("Commands", Topic.commands.map fun c => (c.name, c.about)),
        ("Options", Flag.all.map Flag.row ++ [helpRow])]
    | .consent =>
      [("Arguments", [("<DECISION>", "ACCEPTED or REJECTED")]), ("Options", [helpRow])]
    | .help => [("Arguments", [("[COMMAND]...", "Print help for the subcommand(s)")])]
    | _ => [("Options", [helpRow])]

end Teller.CommandLine
