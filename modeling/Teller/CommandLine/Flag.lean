/-!
# Flags

* `Flag`: what can be set on the command line; `Flag.name`, `Flag.letter?`: how it is spelled.
* `Word`: what a word of a command line is where flags may stand; `Word.ofText`: its reading.
-/

namespace Teller.CommandLine

/-- What the command line can set. -/
inductive Flag where
  /-- The path of a settings file. -/
  | config
  | baseUrl
  | iban
  | consentId
  | paymentId
  | tan
deriving DecidableEq, Repr

namespace Flag

/-- All flags, in the order in which help lists them. -/
def all : List Flag := [.config, .baseUrl, .iban, .consentId, .paymentId, .tan]

/-- The long spelling of a flag, without its dashes. -/
def name : Flag → String
  | .config => "config"
  | .baseUrl => "base-url"
  | .iban => "iban"
  | .consentId => "consent-id"
  | .paymentId => "payment-id"
  | .tan => "tan"

/-- The short spelling of a flag, if it has one. -/
def letter? : Flag → Option Char
  | .config => some 'c'
  | .baseUrl => some 'b'
  | _ => none

/-- What stands for the value of a flag. -/
def placeholder : Flag → String
  | .config => "CONFIG"
  | .baseUrl => "BASE_URL"
  | .iban => "IBAN"
  | .consentId => "CONSENT_ID"
  | .paymentId => "PAYMENT_ID"
  | .tan => "TAN"

/-- A flag with what stands for its value. -/
def term (f : Flag) : String := "--" ++ f.name ++ " <" ++ f.placeholder ++ ">"

end Flag

/-- What a word is where flags may stand. -/
inductive Word where
  /-- Behind it no word is a flag. -/
  | divider
  /-- A flag, with the value that is part of the word. -/
  | flag (f : Flag) (attached : Option String)
  /-- A call for help, with a value that it cannot have. -/
  | help (attached : Option String)
  /-- A flag that does not exist, as it is named in a refusal. -/
  | unknown (shown : String)
  | plain (text : String)
deriving DecidableEq, Repr

namespace Word

/-- A word behind two dashes. An equals sign parts the name from the value. -/
def long (flags : List Flag) (cs : List Char) : Word :=
  let name := String.ofList (cs.takeWhile (· != '='))
  let attached := (cs.dropWhile (· != '=')).tail?.map String.ofList
  match flags.find? (·.name == name) with
  | some f => .flag f attached
  | none => if name = "help" then .help attached else .unknown ("--" ++ name)

/-- A word behind one dash: a letter and the value, which may follow an equals sign. -/
def short (flags : List Flag) (letter : Char) (rest : List Char) : Word :=
  match flags.find? (·.letter? == some letter) with
  | some f =>
    .flag f <|
      match rest with
      | [] => none
      | '=' :: value => some (String.ofList value)
      | value => some (String.ofList value)
  | none => if letter = 'h' then .help none else .unknown (String.ofList ['-', letter])

/-- **What a word is**, given the flags that may stand here. A dash alone is a plain word. -/
def ofText (flags : List Flag) (text : String) : Word :=
  match text.toList with
  | ['-', '-'] => .divider
  | '-' :: '-' :: cs => long flags cs
  | '-' :: letter :: rest => short flags letter rest
  | _ => .plain text

end Word

end Teller.CommandLine
