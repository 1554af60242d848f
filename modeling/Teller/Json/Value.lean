import Teller.Decimal.Shortest
import Teller.Text.Hex

/-!
# JSON values

* `Number`, `Value`: what a JSON text stands for.
* `escape`: a character inside a JSON string.
* `Value.compact`: without any space; `Value.indented`: one member a line.
-/

namespace Teller.Json

open Text (lowerHex)

/-- A number: an integer of 64 bits, signed or unsigned, or a double. -/
inductive Number where
  | integer (n : Int)
  | float (x : Float)

/-- A JSON value; the members of an object keep their order. -/
inductive Value where
  | null
  | bool (b : Bool)
  | number (n : Number)
  | text (s : String)
  | array (items : List Value)
  | object (members : List (String × Value))

/-- A value that may be unset, which is written as null. -/
def orNull {α : Type} (write : α → Value) : Option α → Value
  | some a => write a
  | none => .null

/-- Doubles need no exponent while their leading digit stands for `10 ^ -5` to `10 ^ 15`. -/
def floatLayout : Decimal.Layout := ⟨fun e => -5 ≤ e && e ≤ 15, "inf", "NaN"⟩

/-- The text of a number. -/
def Number.write : Number → String
  | .integer n => toString n
  | .float x => floatLayout.write x

/-- A character inside a string: quotes, backslashes and control characters are escaped, all else
stands for itself. -/
def escape (c : Char) : List Char :=
  if c = '"' then ['\\', '"']
  else if c = '\\' then ['\\', '\\']
  else if c = '\x08' then ['\\', 'b']
  else if c = '\x0c' then ['\\', 'f']
  else if c = '\n' then ['\\', 'n']
  else if c = '\r' then ['\\', 'r']
  else if c = '\t' then ['\\', 't']
  else if c.toNat < 0x20 then
    ['\\', 'u', '0', '0', lowerHex (c.toNat / 16), lowerHex (c.toNat % 16)]
  else [c]

/-- A string with its quotes. -/
def writeText (s : String) : List Char := '"' :: s.toList.flatMap escape ++ ['"']

mutual

/-- A value without any space. -/
def Value.compactChars : Value → List Char
  | .null => ['n', 'u', 'l', 'l']
  | .bool true => ['t', 'r', 'u', 'e']
  | .bool false => ['f', 'a', 'l', 's', 'e']
  | .number n => n.write.toList
  | .text s => writeText s
  | .array items => '[' :: compactItems true items
  | .object members => '\x7b' :: compactMembers true members

/-- The rest of an array; `first` tells that no element came before. -/
def compactItems (first : Bool) : List Value → List Char
  | [] => [']']
  | v :: vs => (if first then [] else [',']) ++ v.compactChars ++ compactItems false vs

/-- The rest of an object. -/
def compactMembers (first : Bool) : List (String × Value) → List Char
  | [] => ['\x7d']
  | (k, v) :: ms =>
    (if first then [] else [',']) ++ writeText k ++ ':' :: v.compactChars ++
      compactMembers false ms

end

/-- A line end and two spaces for each level. -/
def lineStart (level : Nat) : List Char := '\n' :: List.replicate (2 * level) ' '

mutual

/-- A value with one element or member a line, `level` levels deep. -/
def Value.indentedChars (level : Nat) : Value → List Char
  | .array [] => ['[', ']']
  | .object [] => ['\x7b', '\x7d']
  | .array items => '[' :: indentedItems level true items
  | .object members => '\x7b' :: indentedMembers level true members
  | .null => ['n', 'u', 'l', 'l']
  | .bool true => ['t', 'r', 'u', 'e']
  | .bool false => ['f', 'a', 'l', 's', 'e']
  | .number n => n.write.toList
  | .text s => writeText s

/-- The rest of an array. -/
def indentedItems (level : Nat) (first : Bool) : List Value → List Char
  | [] => lineStart level ++ [']']
  | v :: vs =>
    (if first then [] else [',']) ++ lineStart (level + 1) ++ v.indentedChars (level + 1) ++
      indentedItems level false vs

/-- The rest of an object. -/
def indentedMembers (level : Nat) (first : Bool) : List (String × Value) → List Char
  | [] => lineStart level ++ ['\x7d']
  | (k, v) :: ms =>
    (if first then [] else [',']) ++ lineStart (level + 1) ++ writeText k ++ ':' :: ' ' ::
      v.indentedChars (level + 1) ++ indentedMembers level false ms

end

/-- The text of a value without any space. -/
def Value.compact (v : Value) : String := String.ofList v.compactChars

/-- The text of a value with one element or member a line. -/
def Value.indented (v : Value) : String := String.ofList (v.indentedChars 0)

end Teller.Json
