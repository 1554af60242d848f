import Teller.Json.Decode

/-!
# Session ids

A session id is a number of 128 bits, written as thirty-two hexadecimal digits.

* `SessionId.text`: its one written form, in groups of 8, 4, 4, 4 and 12 lower-case digits.
* `SessionId.ofChars`: reads an id. The groups may stand alone, between braces or behind
  `urn:uuid:`, and thirty-two digits without any hyphen are accepted too; case does not matter.
* `IdError`: why a text is no id; the first bad character counts before all else.
-/

namespace Teller

/-- A session id, as its hexadecimal digits. -/
structure SessionId where
  digits : List (Fin 16)
  length_eq : digits.length = 32
deriving DecidableEq, Repr

/-- Why a text is not a session id. -/
inductive IdError where
  /-- Neither a hexadecimal digit nor a hyphen, at an offset in octets. -/
  | character (c : Char) (offset : Nat)
  /-- Digits only, but not thirty-two. -/
  | length (found : Nat)
  /-- Not five groups. -/
  | groups (found : Nat)
  /-- Five groups, one of which has the wrong length. -/
  | group (index expected found : Nat)
deriving DecidableEq, Repr

/-- The wording of an error. -/
def IdError.message : IdError → String
  | .character c offset => "invalid character: found `" ++ c.toString ++ "` at " ++ toString offset
  | .length found => "invalid length: found " ++ toString found
  | .groups found => "invalid group count: expected 5, found " ++ toString found
  | .group index expected found =>
    "invalid group length in group " ++ toString index ++ ": expected " ++ toString expected ++
      ", found " ++ toString found

namespace SessionId

/-- The lengths of the groups. -/
def groupLengths : List Nat := [8, 4, 4, 4, 12]

/-- Cuts a list into groups of the given lengths. -/
def cut {α : Type} : List Nat → List α → List (List α)
  | [], _ => []
  | n :: ns, xs => xs.take n :: cut ns (xs.drop n)

/-- The written form of an id. -/
def chars (id : SessionId) : List Char :=
  ['-'].intercalate (cut groupLengths (id.digits.map fun d => Text.lowerHex d.val))

/-- The written form of an id. -/
def text (id : SessionId) : String := String.ofList id.chars

/-- The value of a hexadecimal digit of either case. -/
def digit? (c : Char) : Option (Fin 16) :=
  match Text.hexValue? c with
  | some n => if h : n < 16 then some ⟨n, h⟩ else none
  | none => none

/-- The part of a text that holds the digits, its offset, and whether the text is nothing else. -/
def inner (cs : List Char) : List Char × Nat × Bool :=
  if cs.head? = some '\x7b' ∧ cs.getLast? = some '\x7d' then (cs.tail.dropLast, 1, false)
  else if (cs.take 9).map Char.toLower = ['u', 'r', 'n', ':', 'u', 'u', 'i', 'd', ':'] then
    (cs.drop 9, 9, false)
  else (cs, 0, true)

/-- The first character that is neither a digit nor a hyphen, with its offset. -/
def badCharacter? (offset : Nat) : List Char → Option IdError
  | [] => none
  | c :: cs =>
    if c = '-' ∨ (digit? c).isSome then badCharacter? (offset + c.utf8Size) cs
    else some (.character c offset)

/-- The first group with a wrong length. -/
def badGroup (index : Nat) : List Nat → List (List Char) → IdError
  | n :: ns, g :: gs => if g.length = n then badGroup (index + 1) ns gs else .group index n g.length
  | _, gs => .groups gs.length

/-- The id of thirty-two digits. -/
def ofDigits? (ds : List (Fin 16)) : Option SessionId :=
  if h : ds.length = 32 then some ⟨ds, h⟩ else none

/-- Reads an id. -/
def ofChars (cs : List Char) : Except IdError SessionId :=
  let (body, offset, plain) := inner cs
  match badCharacter? offset body with
  | some e => .error e
  | none =>
    let groups := body.splitOn '-'
    let known := groups.map List.length = groupLengths ∨
      (plain ∧ body.length = 32 ∧ groups.length = 1)
    match if known then ofDigits? (body.filterMap digit?) else none with
    | some id => .ok id
    | none =>
      if groups.length = 1 ∧ plain ∧ body.length ≠ 36 then .error (.length body.length)
      else if groups.length ≠ 5 then .error (.groups groups.length)
      else .error (badGroup 0 groupLengths groups)

/-- Reads an id from a text. -/
def ofText (s : String) : Except IdError SessionId := ofChars s.toList

/-- Reads an id from the string in a JSON text. -/
def ofJson (text : String) : Except Json.Error SessionId :=
  Json.decodeAs
    (Json.Node.textAs "a formatted UUID string" fun s =>
      (ofText s).mapError fun e => .refused ("UUID parsing failed: " ++ e.message))
    text

/-- An id as a JSON value. -/
def toJson (id : SessionId) : Json.Value := .text id.text

end SessionId

end Teller
