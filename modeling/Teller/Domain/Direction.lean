import Teller.Text.CodePoints

/-!
# Labels in two directions

A label of letters that run from right to left may not hold some other characters, so that it looks
the same wherever it is shown.

* `Direction`: the directions of characters; `Direction.of`: the one of a character.
* `Direction.runsLeft`: the characters that make the rule apply.
* `Direction.fits`: the rule for one label.
-/

namespace Teller.Domain

/-- The directions of characters, as Unicode classes them. -/
inductive Direction where
  | left
  | right
  | arabic
  | arabicNumber
  | number
  | numberSign
  | numberSeparator
  | numberMark
  | neutral
  | boundary
  | mark
  | other
deriving DecidableEq, Repr

namespace Direction

/-- The direction that a letter of the table stands for. -/
def ofLetter : Char → Direction
  | 'l' => .left
  | 'r' => .right
  | 'a' => .arabic
  | 'n' => .arabicNumber
  | 'e' => .number
  | 's' => .numberSign
  | 'c' => .numberSeparator
  | 't' => .numberMark
  | 'o' => .neutral
  | 'b' => .boundary
  | 'm' => .mark
  | _ => .other

/-- The directions, a letter each, and how many code points in a row have each. Code points that no
domain has take the direction before them. -/
def table : Text.Lettering := .ofWords
  [["b9", "z5", "be", "z5", "o2", "t3", "o5", "s1", "c1", "s1", "c2", "ea", "c1", "o12", "lq"],
   ["o4", "by", "o1", "t4", "oa", "t6", "o15", "lo", "o1", "lch", "o2", "l7", "oe", "l2", "os"],
   ["l1", "oh", "m35", "l4", "o2", "l3j", "o2", "l3v", "m8", "l73", "o5", "t2", "m19", "r1", "m1"],
   ["r1", "m2", "r1", "m2", "r1", "m9", "r1i", "o2", "a1", "t2", "a1", "c1", "a1", "o2", "mb"],
   ["a1c", "ml", "na", "t1", "n2", "a3", "m1", "a2t", "m8", "o1", "m6", "a2", "m2", "o1", "m4"],
   ["a2", "ea", "an", "m1", "au", "mt", "a2h", "mb", "af", "r17", "m9", "r2", "o4", "r3", "m1"],
   ["ro", "m4", "r1", "m9", "r1", "m3", "r1", "m7", "r15", "m5", "r2", "a1k", "m8", "a16", "m1l"],
   ["l1j", "m1", "l1", "m1", "l4", "m8", "l4", "m1", "l3", "mf", "l2", "m2", "lt", "m1", "l1m"],
   ["m1", "l4", "m6", "l6", "m1", "lk", "m4", "lc", "t2", "l7", "t1", "l2", "m5", "l1l", "m2"],
   ["l3", "mr", "lk", "m2", "l3", "m1", "lb", "m2", "l1l", "m1", "l4", "m8", "l4", "m3", "li"],
   ["m4", "lb", "t8", "l1", "m8", "l1m", "m1", "l2", "m1", "l1", "m6", "l6", "ma", "lb", "m4"],
   ["ls", "m1", "l1p", "m1", "lc", "m3", "lz", "o6", "t1", "o6", "m1", "l3", "m1", "l1j", "m1"],
   ["l1", "m3", "l5", "mi", "la", "m4", "li", "o7", "l2", "m1", "l1m", "m1", "lf", "m9", "ld"],
   ["m4", "lq", "m2", "l1l", "m2", "l4", "m5", "l7", "m1", "lk", "m4", "lr", "m1", "l20", "m5"],
   ["l3", "m6", "l2h", "m1", "l2", "mb", "t1", "l7", "m8", "l2q", "m1", "l2", "m9", "lb", "m8"],
   ["l20", "m2", "lr", "m1", "l1", "m1", "l1", "m1", "o4", "l1f", "me", "l1", "m5", "l1", "m2"],
   ["l5", "m1d", "l8", "m1", "l2u", "m4", "l1", "m6", "l1", "m2", "l2", "m2", "lp", "m2", "l4"],
   ["m3", "lg", "m4", "ld", "m1", "l2", "m2", "l6", "m1", "lf", "m1", "ljj", "m3", "l1c", "og"],
   ["l2o", "o1", "lii", "o5", "l36", "m3", "lt", "m2", "lu", "me", "li", "me", "l1j", "m7", "l8"],
   ["m1", "l2", "mb", "l7", "t1", "l1", "m3", "lg", "ow", "l39", "m2", "ly", "m1", "l3a", "m3"],
   ["l4", "m2", "l9", "m1", "l6", "m7", "o6", "l48", "oy", "ln", "m2", "l2", "m3", "l1k", "m1"],
   ["l1", "m9", "l1", "m1", "l2", "m8", "l6", "md", "l1c", "m2c", "l1c", "m1", "l1", "m5", "l1"],
   ["m1", "l5", "m1", "l14", "m9", "lc", "m2", "lw", "m4", "l2", "m2", "l1", "m3", "l1k", "m1"],
   ["l1", "m2", "l3", "m1", "l1", "m3", "l1m", "m8", "l2", "m5", "l45", "m3", "l1", "md", "l1"],
   ["m7", "l4", "m1", "l6", "m1", "l3", "m2", "l5i", "m1t", "lej", "b4", "ow", "t5", "of", "c1"],
   ["o2j", "t1c", "m1g", "o16", "tc", "ok", "l1o", "o3s", "s1", "t1", "o82", "l1x", "oq", "l1"],
   ["oly", "l1", "o9f", "l74", "omo", "l51", "o7", "l3", "m4", "l6", "o7", "l3j", "m1", "l2o"],
   ["mw", "oed", "l3", "op", "l9", "m4", "l2", "o1", "l6", "o4", "l2", "o4", "l2g", "m4", "l3"],
   ["o1", "l2i", "o1", "l5g", "o1c", "l5hs", "o1s", "lh3k", "o1s", "l8t", "o3", "l2n", "m4", "o1"],
   ["ma", "o3", "lt", "m2", "l28", "m2", "le", "oz", "l2t", "o1", "l3d", "m1", "l3", "m1", "l4"],
   ["m1", "lp", "m2", "l1", "o4", "m4", "l8", "t8", "l1g", "oc", "l1w", "ma", "li", "mi", "ld"],
   ["m1", "l12", "m8", "lp", "mb", "l1a", "m3", "l1c", "m1", "l2", "m4", "l2", "m2", "l13", "m1"],
   ["l1v", "m6", "l2", "m2", "l2", "mb", "l3", "m1", "l8", "m1", "l1b", "m1", "l1f", "m1", "l1"],
   ["m3", "l2", "m2", "l5", "m2", "l1", "m1", "l16", "m2", "l8", "mb", "l2x", "o2e", "l11", "m1"],
   ["l2", "m1", "l4", "m3", "lfn2", "m44", "ab0", "o6a", "m11", "o1a", "ab1", "l75", "o1", "l1q"],
   ["o25", "l3", "o1s", "l19", "m3n", "l2o", "m1", "ev", "l3a", "ma", "lw0", "r7z", "o1", "r69"],
   ["mf", "r14", "m8", "r4l", "m6", "r26", "o7", "rcg", "a10", "mc", "n9c", "r17", "m2", "r3n"],
   ["am", "mb", "av", "ri", "m4", "r3e", "l1", "m1", "l1i", "mf", "lb", "ok", "la", "m1", "l2"],
   ["m2", "la", "m3", "l1d", "m4", "l2", "m2", "l7", "me", "l1c", "m3", "l10", "m5", "l1", "m9"],
   ["l1p", "m1", "lc", "m2", "l1g", "m9", "la", "m4", "l2", "m1", "l2n", "m3", "l2", "m1", "l1"],
   ["m2", "l6", "m1u", "l2n", "m1", "l3", "md", "lg", "m2", "l1l", "m2", "l3", "m1", "l11", "m4a"],
   ["l1k", "m8", "l2", "m3", "l1", "m1", "ln", "m1", "l2c", "m6", "l1", "m1", "l4", "m2", "l1"],
   ["m2", "l6m", "m6", "l4", "m2", "l1", "m2", "lr", "m10", "l1f", "m8", "l2", "m1", "l1", "m2"],
   ["lv", "ow", "l17", "m1", "l1", "m1", "l2", "m6", "l1", "m1", "l2t", "m3", "l2", "m4", "l1"],
   ["m9", "l73", "m9", "l1", "m2", "l74", "m2", "l1", "m1", "l4", "m1", "l40", "m8", "l4", "m1"],
   ["lw", "m6", "l2", "m2", "l14", "m6", "l2", "m4", "l8", "m9", "l1", "m6", "l2", "m3", "l1a"],
   ["md", "l1", "m2", "lba", "me", "l2c", "mn", "l1", "m7", "l1", "m2", "l1", "m23", "l1d", "ml"],
   ["l1", "m9", "l1s", "m3", "l2", "m1", "l1", "m1", "l9n", "m2", "l68", "o8", "t4", "ou", "lesx"],
   ["m5", "l1n", "m7", "lt4", "m1", "l1r", "m4", "l27", "o1", "l1", "mc", "lf59", "m2", "l3mp"],
   ["m28", "lev", "m3", "lh", "m8", "l2", "m7", "lu", "m4", "l1n", "o2h", "m3", "o4b", "lw", "o2o"],
   ["l1b4", "m1j", "l4", "m1e", "l8", "m1", "le", "m1", "lm", "mv9", "l74", "m74", "l1c", "m7"],
   ["laf", "mi", "l18", "m4", "lf", "typ", "lw", "r5s", "m2a", "ry", "m7", "rme", "ahr", "ogw"],
   ["lt", "o3", "l1p", "o1l", "l3e", "o2ow", "ll2io"]]

/-- The direction of a character. -/
def of (c : Char) : Direction := ((table.at? c).map ofLetter).getD .left

/-- The directions that make the rule apply to a domain. -/
def runsLeft : Direction → Bool
  | .right | .arabic | .arabicNumber => true
  | _ => false

/-- What a label that starts from the right may hold. -/
def inRight : Direction → Bool
  | .left | .other => false
  | _ => true

/-- What a label that starts from the left may hold. -/
def inLeft : Direction → Bool
  | .right | .arabic | .arabicNumber | .other => false
  | _ => true

/-- What a label that starts from the right may end in, marks behind it aside. -/
def endsRight : Direction → Bool
  | .right | .arabic | .number | .arabicNumber => true
  | _ => false

/-- What a label that starts from the left may end in, marks behind it aside. -/
def endsLeft : Direction → Bool
  | .left | .number => true
  | _ => false

/-- The rule for a label, given the directions of its characters. -/
def fits (ds : List Direction) : Bool :=
  let last := (ds.reverse.dropWhile (· == .mark)).head?
  match ds with
  | [] => true
  | .right :: _ | .arabic :: _ =>
    ds.all inRight && last.any endsRight && !(ds.contains .number && ds.contains .arabicNumber)
  | .left :: _ => ds.all inLeft && last.any endsLeft
  | _ => false

end Direction

end Teller.Domain
