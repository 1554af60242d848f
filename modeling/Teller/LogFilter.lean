import Teller.Event
import Teller.Text.Alphanumeric
import Teller.Text.Blank

/-!
# Log filters

Which events are written. A filter is a list of directives; the most specific one that applies to
an event decides.

* `Directive`: how much to log of a part of the program; `Directive.read?`: from its text.
* `LogFilter`: directives, the more specific ones first; `LogFilter.insert`: one more, in place of an
  older one for the same part.
* `LogFilter.inForce`: the filter that the environment or else the settings ask for.
* `LogFilter.enables`: whether an event is written.
-/

namespace Teller

/-- How much to log, or nothing at all. -/
abbrev Verbosity := Option Level

/-- The name of a verbosity. -/
def Verbosity.name (v : Verbosity) : String := (v.map fun l => l.name.map Char.toLower).getD "off"

/-- The verbosity that a number stands for. -/
def Verbosity.ofNumber? : Nat → Option Verbosity
  | 0 => some none
  | 1 => some (some .error)
  | 2 => some (some .warn)
  | 3 => some (some .info)
  | 4 => some (some .debug)
  | 5 => some (some .trace)
  | _ => none

/-- The number that decimal digits give, a plus sign in front of them allowed. -/
def decimal? (cs : List Char) : Option Nat :=
  let digits := if cs.head? = some '+' then cs.tail else cs
  if digits.isEmpty ∨ ¬ digits.all Char.isDigit then none
  else some (digits.foldl (fun n c => n * 10 + (c.toNat - '0'.toNat)) 0)

/-- The verbosity that a text stands for: a number or a name. -/
def Verbosity.ofChars? (cs : List Char) : Option Verbosity :=
  match (decimal? cs).bind Verbosity.ofNumber? with
  | some v => some v
  | none =>
    match String.ofList (cs.map Char.toLower) with
    | "off" => some none
    | "error" => some (some .error)
    | "warn" => some (some .warn)
    | "info" => some (some .info)
    | "debug" => some (some .debug)
    | "trace" => some (some .trace)
    | _ => none

/-- How much to log of a part of the program: of a target, within a span, with some fields. -/
structure Directive where
  target : Option String := none
  span : Option String := none
  fields : List String := []
  verbosity : Verbosity
deriving DecidableEq, Repr

namespace Directive

/-- The part of the program between brackets. -/
def scopeText (d : Directive) : String :=
  if d.span.isNone ∧ d.fields.isEmpty then ""
  else
    "[" ++ d.span.getD "" ++
      (if d.fields.isEmpty then "" else "\x7b" ++ ",".intercalate d.fields ++ "\x7d") ++ "]"

/-- The text of a directive. -/
def text (d : Directive) : String :=
  let part := d.target.getD "" ++ d.scopeText
  (if d.target.isNone ∧ d.scopeText.isEmpty then "" else part ++ "=") ++ d.verbosity.name

/-- Where a reader of a directive stands; numbers are places in the text. -/
inductive State where
  | start
  | targetOrLevel
  | span (start : Nat)
  | field (start : Nat)
  | fields
  | target
  | level (start : Nat)
deriving DecidableEq, Repr

/-- What has been read of a directive. -/
structure Draft where
  state : State := .start
  target : Option String := none
  span : Option String := none
  fields : List String := []

/-- The text between two places. -/
def slice (cs : List Char) (start stop : Nat) : String :=
  String.ofList ((cs.take stop).drop start)

/-- The draft with the field that ends at a place. -/
def Draft.addField (d : Draft) (cs : List Char) (start stop : Nat) (next : State) : Option Draft :=
  if start = stop then none
  else some { d with state := next, fields := d.fields ++ [slice cs start stop] }

/-- Reads the character at a place. -/
def Draft.step (cs : List Char) (d : Draft) (place : Nat) (c : Char) : Option Draft :=
  match d.state with
  | .start =>
    if c = '[' then some { d with state := .span (place + 1) }
    else if c = '-' ∨ c = ':' ∨ c = '_' ∨ Text.isAlphanumeric c then
      some { d with state := .targetOrLevel }
    else none
  | .targetOrLevel =>
    if c = '=' then some { d with state := .level (place + 1), target := some (slice cs 0 place) }
    else if c = '[' then
      some { d with state := .span (place + 1), target := some (slice cs 0 place) }
    else some d
  | .span start =>
    if c = ']' then some { d with state := .target, span := some (slice cs start place) }
    else if c = '\x7b' then
      some { d with state := .field (place + 1),
                    span := if start = place then none else some (slice cs start place) }
    else some d
  | .field start =>
    if c = '\x7d' then d.addField cs start place .fields
    else if c = ',' then d.addField cs start place (.field (place + 1))
    else some d
  | .fields => if c = ']' then some { d with state := .target } else none
  | .target => if c = '=' then some { d with state := .level (place + 1) } else none
  | .level _ => some d

/-- Reads characters from a place on. -/
def Draft.run (cs : List Char) (d : Draft) (place : Nat) : List Char → Option Draft
  | [] => some d
  | c :: rest => (d.step cs place c).bind (·.run cs (place + 1) rest)

/-- The directive of a text. Blanks around it are passed over, but places count in the whole text. A
name alone is a level if it can be one. -/
def read? (s : String) : Option Directive := do
  let cs := s.toList
  let d ← Draft.run cs {} 0 (Text.trimWhere Text.isBlank cs)
  match d.state with
  | .targetOrLevel =>
    match Verbosity.ofChars? cs with
    | some v => return { verbosity := v }
    | none => return { target := some s, verbosity := some .trace }
  | .level start =>
    let level := cs.drop start
    let v ← if level.isEmpty then some (some .trace) else Verbosity.ofChars? level
    return ⟨d.target, d.span, d.fields, v⟩
  | .target => return ⟨d.target, d.span, d.fields, some .trace⟩
  | _ => none

/-- How specific a directive is: one with a longer target, a longer span or more fields is more so;
names decide last. -/
def specificity (a b : Directive) : Ordering :=
  (compare (a.target.map String.utf8ByteSize) (b.target.map String.utf8ByteSize)).then <|
  (compare (a.span.map String.utf8ByteSize) (b.span.map String.utf8ByteSize)).then <|
  (compare a.fields.length b.fields.length).then <|
  (compare a.target b.target).then <|
  (compare a.span b.span).then <| compare a.fields b.fields

/-- A directive for events outside of spans as well: it names no span and no value of a field. -/
def isStatic (d : Directive) : Bool := d.span.isNone && !d.fields.any (·.toList.contains '=')

/-- A directive for spans, or for what is inside of them. -/
def isDynamic (d : Directive) : Bool := d.span.isSome || !d.fields.isEmpty

/-- A directive applies to an event of its target that has its fields. -/
def appliesTo (d : Directive) (e : Event) : Bool :=
  (d.target.all fun t => t.toList.isPrefixOf e.source.name.toList) &&
    d.fields.all fun f => f == "message" || e.fields.any (·.1 == f)

/-- A directive lets an event pass. -/
def passes (d : Directive) (e : Event) : Bool :=
  match d.verbosity with
  | some l => e.level.rank ≤ l.rank
  | none => false

end Directive

/-- A filter: directives for all events, and directives for spans, the more specific ones first. -/
structure LogFilter where
  statics : List Directive
  dynamics : List Directive
deriving Repr

namespace LogFilter

/-- Puts a directive in front of the less specific ones, in place of one for the same part. -/
def insert (d : Directive) : List Directive → List Directive
  | [] => [d]
  | e :: es =>
    match d.specificity e with
    | .gt => d :: e :: es
    | .eq => d :: es
    | .lt => e :: insert d es

/-- The directives of a list, the more specific ones first. -/
def sorted (ds : List Directive) : List Directive := ds.foldl (fun es d => insert d es) []

/-- What is logged if nothing else is said. -/
def fallback : Directive := { verbosity := some .error }

/-- The filter of some directives. -/
def ofDirectives (ds : List Directive) : LogFilter :=
  if ds.isEmpty then ⟨[fallback], []⟩
  else
    let dynamics := ds.filter Directive.isDynamic
    ⟨sorted (ds.filter (!·.isDynamic) ++ dynamics.filter Directive.isStatic), sorted dynamics⟩

/-- The texts of directives, between commas. -/
def parts (s : String) : List String := ((s.splitOn ",").filter (!·.isEmpty))

/-- The filter of a text, if all its directives can be read. -/
def read? (s : String) : Option LogFilter := ((parts s).mapM Directive.read?).map ofDirectives

/-- The filter of those directives of a text that can be read. -/
def readLossy (s : String) : LogFilter := ofDirectives ((parts s).filterMap Directive.read?)

/-- The filter that settings ask for. -/
def ofLevel (logLevel : String) : LogFilter :=
  readLossy ("online_banking=" ++ logLevel.map Char.toLower ++ ",reqwest=warn")

/-- **The filter in force.** One that the environment gives counts, if it can be read. -/
def inForce (logLevel : String) (environment : Option String) : LogFilter :=
  (environment.bind read?).getD (ofLevel logLevel)

/-- The text of a filter. -/
def text (f : LogFilter) : String :=
  ",".intercalate ((f.statics ++ f.dynamics).map Directive.text)

/-- Whether an event is written: the most specific directive that applies to it decides. -/
def enables (f : LogFilter) (e : Event) : Bool :=
  (f.statics.find? (·.appliesTo e)).any (·.passes e)

end LogFilter

end Teller
