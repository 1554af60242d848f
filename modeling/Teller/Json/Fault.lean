import Teller.Schema.Mismatch
import Teller.Json.Value
import Teller.Text.Utf8

/-!
# Faults of a JSON text

A fault has a cause and a place. While a text is read its places are kept as the text that is still
ahead; `Error` gives line and column.

* `Cause`: what is wrong; `Cause.message`: its wording.
* `Fault`: a cause, the text ahead, and how many octets of it were looked at.
* `Mark.ofOffset`: line and column of an offset. Columns count octets.
* `Error.message`: cause and place as one text.
-/

namespace Teller.Json

/-- What is wrong with a text. -/
inductive Cause where
  | endInValue
  | endInArray
  | endInObject
  | endInText
  | valueExpected
  | wordExpected
  | colonExpected
  | arrayCommaOrEnd
  | objectCommaOrEnd
  | nameNotText
  | trailingComma
  | trailingCharacters
  | badNumber
  | numberTooLarge
  | badEscape
  | escapeCutShort
  | loneSurrogate
  | controlCharacter
  | tooDeep
  | mismatch (m : Schema.Mismatch)

/-- The wording of a cause. -/
def Cause.message : Cause → String
  | .endInValue => "EOF while parsing a value"
  | .endInArray => "EOF while parsing a list"
  | .endInObject => "EOF while parsing an object"
  | .endInText => "EOF while parsing a string"
  | .valueExpected => "expected value"
  | .wordExpected => "expected ident"
  | .colonExpected => "expected `:`"
  | .arrayCommaOrEnd => "expected `,` or `]`"
  | .objectCommaOrEnd => "expected `,` or `\x7d`"
  | .nameNotText => "key must be a string"
  | .trailingComma => "trailing comma"
  | .trailingCharacters => "trailing characters"
  | .badNumber => "invalid number"
  | .numberTooLarge => "number out of range"
  | .badEscape => "invalid escape"
  | .escapeCutShort => "unexpected end of hex escape"
  | .loneSurrogate => "lone leading surrogate in hex escape"
  | .controlCharacter => "control character (\\u0000-\\u001F) found while parsing a string"
  | .tooDeep => "recursion limit exceeded"
  | .mismatch m => m.message floatLayout.write

/-- A cause and its place: the text ahead, of which `seen` octets were looked at already. -/
structure Fault where
  cause : Cause
  ahead : List Char
  seen : Nat := 0

/-- Line and column of a place in a text; the column counts the octets since the line's start. -/
structure Mark where
  line : Nat
  column : Nat
deriving DecidableEq, Repr

/-- The place behind the first `offset` octets. -/
def Mark.ofOffset (text : List Char) (offset : Nat) : Mark :=
  let before := (Text.Utf8.encode text).take offset
  { line := before.count 10 + 1
    column := (before.reverse.takeWhile (· != 10)).length }

/-- A fault with line and column. -/
structure Error where
  cause : Cause
  mark : Mark

/-- Places a fault in the text that it was found in. -/
def Fault.locate (text : List Char) (f : Fault) : Error :=
  ⟨f.cause, Mark.ofOffset text (Text.Utf8.size text - Text.Utf8.size f.ahead + f.seen)⟩

/-- Cause and place. -/
def Error.message (e : Error) : String :=
  e.cause.message ++ " at line " ++ toString e.mark.line ++ " column " ++ toString e.mark.column

end Teller.Json
