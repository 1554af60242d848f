/-!
# Blank text

White space in the sense of Unicode's `White_Space` property.

* `isBlank`: the property, character by character.
* `trim`: a text without the blanks at its two ends.
* `allBlank`: texts that count as not given.
-/

namespace Teller.Text

/-- The characters with the Unicode property `White_Space`. -/
def isBlank (c : Char) : Bool :=
  let n := c.toNat
  (0x09 ≤ n && n ≤ 0x0D) || n == 0x20 || n == 0x85 || n == 0xA0 || n == 0x1680 ||
    (0x2000 ≤ n && n ≤ 0x200A) || n == 0x2028 || n == 0x2029 || n == 0x202F || n == 0x205F ||
    n == 0x3000

/-- The characters that pass `drop` are cut off at both ends. -/
def trimWhere (drop : Char → Bool) (cs : List Char) : List Char :=
  ((cs.dropWhile drop).reverse.dropWhile drop).reverse

/-- A text without the blanks at its ends. -/
def trim (s : String) : String := String.ofList (trimWhere isBlank s.toList)

/-- A text of blanks only, the empty text included. -/
def allBlank (s : String) : Bool := s.toList.all isBlank

end Teller.Text
