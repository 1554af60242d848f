import Teller.Text.Hex
import Teller.Text.Utf8

/-!
# Percent escapes

Each part of a URL has characters that stand for themselves there; all others, and every character
beyond ASCII, are written as the escapes of their octets.

* `EscapeSet`: the ASCII characters that a part escapes; `controls`, `fragment`, `path`,
  `pathSegment`, `userinfo`, `query`: the sets of the parts.
* `escapeWith`: a text with the characters of a set escaped.
* `unescape`: the octets of a text with escapes.
-/

namespace Teller.Url

open Text (hexValue? upperHex)

/-- The printable ASCII characters that a part of a URL escapes, control characters aside. -/
structure EscapeSet where
  chars : List Char

namespace EscapeSet

/-- Nothing but control characters. -/
def controls : EscapeSet := ⟨[]⟩

/-- What a fragment escapes. -/
def fragment : EscapeSet := ⟨[' ', '"', '<', '>', '`']⟩

/-- What a path escapes. -/
def path : EscapeSet := ⟨fragment.chars ++ ['#', '?', '\x7b', '\x7d']⟩

/-- What a single segment escapes so that it stays one; where a backslash separates segments too
(`special`), the backslash as well. -/
def pathSegment (special : Bool) : EscapeSet :=
  ⟨path.chars ++ ['/', '%'] ++ if special then ['\\'] else []⟩

/-- What user name and password escape. -/
def userinfo : EscapeSet :=
  ⟨path.chars ++ ['/', ':', ';', '=', '@', '[', '\\', ']', '^', '|']⟩

/-- What a query escapes; of a special scheme the apostrophe as well. -/
def query (special : Bool) : EscapeSet :=
  ⟨[' ', '"', '#', '<', '>'] ++ if special then [Char.ofNat 0x27] else []⟩

/-- Whether a character is written as escapes. -/
def escapes (set : EscapeSet) (c : Char) : Bool :=
  c.toNat < 0x20 || 0x7F ≤ c.toNat || set.chars.contains c

end EscapeSet

/-- The escape of an octet. -/
def escapeOctet (b : UInt8) : List Char :=
  ['%', upperHex (b.toNat / 16), upperHex (b.toNat % 16)]

/-- A character where the set applies. -/
def escapeChar (set : EscapeSet) (c : Char) : List Char :=
  if set.escapes c then (String.utf8EncodeChar c).flatMap escapeOctet else [c]

/-- A text with the characters of a set escaped. -/
def escapeWith (set : EscapeSet) (cs : List Char) : List Char := cs.flatMap (escapeChar set)

/-- The octets of a text. A percent sign that two digits do not follow stands for itself. -/
def unescape : List Char → List UInt8
  | [] => []
  | c :: cs =>
    if c = '%' then
      match cs with
      | a :: b :: r =>
        match hexValue? a, hexValue? b with
        | some m, some n => UInt8.ofNat (m * 16 + n) :: unescape r
        | _, _ => String.utf8EncodeChar c ++ unescape (a :: b :: r)
      | [a] => String.utf8EncodeChar c ++ unescape [a]
      | [] => String.utf8EncodeChar c
    else String.utf8EncodeChar c ++ unescape cs

end Teller.Url
