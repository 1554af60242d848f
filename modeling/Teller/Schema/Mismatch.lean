import Teller.Text.Quoted

/-!
# Mismatches

How a document can fail to have the shape that is asked for. A notation adds the place, and its own
way to write floating point numbers.

* `Found`: the kinds of value that can stand in a document.
* `Mismatch`: the causes; `Mismatch.message`: their wording.
-/

namespace Teller.Schema

/-- A value that was found where another was wanted. -/
inductive Found where
  | null
  | flag (b : Bool)
  | integer (n : Int)
  | float (x : Float)
  | text (s : String)
  | sequence
  | map

/-- Why a value does not have the wanted shape. -/
inductive Mismatch where
  /-- A value of another kind. -/
  | kind (found : Found) (wanted : String)
  /-- A value of the right kind that the type does not hold. -/
  | range (found : Found) (wanted : String)
  /-- A member that must be given is not. -/
  | missing (name : String)
  /-- A member is given twice. -/
  | duplicate (name : String)
  /-- A word that is none of the choices. -/
  | choice (found : String) (choices : List String)
  /-- An array with too few elements for the members of an object. -/
  | tooShort (given : Nat) (typeName : String) (members : Nat)
  /-- Neither milliseconds nor a text. -/
  | timestamp
  /-- A text that its own reader refuses. -/
  | refused (reason : String)

/-- The name of a found value. -/
def Found.message (float : Float → String) : Found → String
  | .null => "null"
  | .flag b => "boolean `" ++ toString b ++ "`"
  | .integer n => "integer `" ++ toString n ++ "`"
  | .float x => "floating point `" ++ float x ++ "`"
  | .text s => "string " ++ Text.quoted s
  | .sequence => "sequence"
  | .map => "map"

/-- The choices as a message lists them. -/
def listChoices : List String → String
  | [] => "there are no variants"
  | [a] => "expected `" ++ a ++ "`"
  | [a, b] => "expected `" ++ a ++ "` or `" ++ b ++ "`"
  | cs => "expected one of " ++ ", ".intercalate (cs.map fun c => "`" ++ c ++ "`")

/-- The wording of a mismatch, given the notation's way to write floating point numbers. -/
def Mismatch.message (float : Float → String) : Mismatch → String
  | .kind found wanted => "invalid type: " ++ found.message float ++ ", expected " ++ wanted
  | .range found wanted => "invalid value: " ++ found.message float ++ ", expected " ++ wanted
  | .missing name => "missing field `" ++ name ++ "`"
  | .duplicate name => "duplicate field `" ++ name ++ "`"
  | .choice found choices => "unknown variant `" ++ found ++ "`, " ++ listChoices choices
  | .tooShort given typeName members =>
    "invalid length " ++ toString given ++ ", expected struct " ++ typeName ++ " with " ++
      toString members ++ (if members = 1 then " element" else " elements")
  | .timestamp => "data did not match any variant of untagged enum Timestamp"
  | .refused reason => reason

end Teller.Schema
