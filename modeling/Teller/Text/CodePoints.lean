/-!
# Sets of code points

Unicode properties come as long lists of ranges. `CodePoints` holds one, and `CodePoints.ofRuns`
reads it from a text that gives the lengths of the stretches outside and inside the set in turn.

* `contains`: membership.
* `numbers`: the base-36 numbers of a text, which the tables of this library are written in.
* `Lettering`: a letter for every code point, for properties with several values.
-/

namespace Teller.Text

/-- The value of a digit or lower-case letter in base 36. -/
def digit36 (c : Char) : Nat :=
  if c.isDigit then c.toNat - '0'.toNat else c.toNat - 'a'.toNat + 10

/-- The numbers of a text, between single spaces, in base 36. -/
def numbers (s : String) : List Nat :=
  let (word, done) := s.toList.foldl
    (fun (word, done) c => if c = ' ' then (0, word :: done) else (word * 36 + digit36 c, done))
    (0, [])
  (word :: done).reverse

/-- A set of code points: its ranges, both ends included, in rising order. -/
structure CodePoints where
  ranges : List (Nat × Nat)

namespace CodePoints

/-- The ranges of alternating stretches outside and inside the set, from `pos` on. -/
def rangesFrom (pos : Nat) : List Nat → List (Nat × Nat)
  | out :: ins :: rest => (pos + out, pos + out + ins - 1) :: rangesFrom (pos + out + ins) rest
  | _ => []

/-- Reads a set from the lengths of its stretches. -/
def ofRuns (s : String) : CodePoints := ⟨rangesFrom 0 (numbers s)⟩

/-- Membership. -/
def contains (set : CodePoints) (c : Char) : Bool :=
  set.ranges.any fun r => r.1 ≤ c.toNat && c.toNat ≤ r.2

end CodePoints

/-- Letters for code points: the runs of one letter after another, each with the code point behind
its last one. -/
structure Lettering where
  runs : List (Nat × Char)

namespace Lettering

/-- The runs from the code point `first` on; a word is a letter and the length of its run. -/
def runsFrom (first : Nat) : List (List Char) → List (Nat × Char)
  | (letter :: digits) :: rest =>
    let last := first + digits.foldl (fun n c => n * 36 + digit36 c) 0
    (last, letter) :: runsFrom last rest
  | _ => []

/-- Reads the letters of all code points from lines of words. -/
def ofWords (table : List (List String)) : Lettering :=
  ⟨runsFrom 0 (table.flatten.map String.toList)⟩

/-- The letter of a character. -/
def at? (table : Lettering) (c : Char) : Option Char :=
  (table.runs.find? fun r => c.toNat < r.1).map (·.2)

end Lettering

end Teller.Text
