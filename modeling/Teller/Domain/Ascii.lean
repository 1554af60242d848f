import Teller.Domain.Direction
import Teller.Domain.Joining
import Teller.Domain.Mapping
import Teller.Domain.Punycode

/-!
# Domain names in ASCII

A domain name is looked up in ASCII. Labels with other letters are written with the mark `xn--` and
their letters as numbers.

* `Domain.ascii?`: the ASCII form of a domain, or `none` if it is no domain name.
-/

namespace Teller.Domain

open Text (composed)

/-- ASCII characters that no host has. -/
def isForbidden (c : Char) : Bool :=
  c.toNat ≤ 0x20 || c.toNat == 0x7F || "%#/:<>?@[\\]^|".toList.contains c

/-- A character of ASCII. -/
def isAscii (c : Char) : Bool := c.toNat < 0x80

/-- The mark of a label with other letters. -/
def mark : List Char := ['x', 'n', '-', '-']

/-- The longest label that is encoded, and the longest that is decoded. -/
def maxEncoded : Nat := 1000

/-- The longest encoded label. -/
def maxDecoded : Nat := 2000

/-- The letters of a label: an encoded one must have letters outside ASCII, each in the form that
stands for all its variants. -/
def letters? (label : List Char) : Option (List Char) :=
  if mark.isPrefixOf label then do
    let encoded := label.drop mark.length
    if maxDecoded < encoded.length then none
    let cs ← Punycode.decode? encoded
    if cs.all isAscii ∨ ¬ cs.all isLetter ∨ composed cs ≠ cs then none
    return cs
  else some label

/-- A label keeps the rules for its letters: no mark at the start, joiners only in their places. -/
def fits (cs : List Char) : Bool :=
  cs.all isAscii || (!(cs.head?.any isMark) && joinersFit cs)

/-- The ASCII form of a label with the given letters. -/
def encoded? (cs : List Char) : Option (List Char) :=
  if cs.all isAscii then some cs
  else if maxEncoded < cs.length then none
  else some (mark ++ Punycode.encode cs)

/-- The ASCII form of a domain. If one label runs from right to left, all keep the rule for that. -/
def ascii? (cs : List Char) : Option (List Char) := do
  let mapped ← mapped? cs
  let labels ← ((if mapped.all isAscii then mapped else composed mapped).splitOn '.').mapM letters?
  if labels.any (·.any isForbidden) ∨ ¬ labels.all fits then none
  let directions := labels.map (·.map Direction.of)
  if directions.any (·.any Direction.runsLeft) ∧ ¬ directions.all Direction.fits then none
  return ['.'].intercalate (← labels.mapM encoded?)

end Teller.Domain
