import Teller.Text.Composition

/-!
# Marks and joiners

* `isMark`: characters that extend the one before them; no label starts with one.
* `Joining`: how a letter of a cursive script joins its neighbours.
* `joinersFit`: the two invisible joiners stand only where they change the shape of a letter.
-/

namespace Teller.Domain

/-- Letters and marks, `v` and `m`, and how many code points in a row are the one or the other. -/
def markTable : Text.Lettering := .ofWords
  [["vlc", "m35", "v7m", "m8", "v7a", "m19", "v1", "m1", "v1", "m2", "v1", "m2", "v1", "m9", "v1s"],
   ["mb", "v1c", "ml", "vg", "m1", "v2t", "m8", "v1", "m6", "v2", "m2", "v1", "m4", "vz", "m1"],
   ["vu", "mt", "v2h", "mb", "v1m", "m9", "v9", "m1", "vo", "m4", "v1", "m9", "v1", "m3", "v1"],
   ["m7", "v15", "m5", "v1m", "m8", "v16", "m1m", "v1i", "m3", "v1", "mi", "v1", "mf", "v2", "m2"],
   ["vt", "m4", "v1j", "m1", "v1", "mg", "v9", "m9", "v2", "m4", "vo", "m7", "v1j", "mw", "vk"],
   ["m2", "v3", "m1", "vb", "m4", "v1j", "m1", "v1", "mi", "vi", "m4", "vk", "mb", "v1j", "m1"],
   ["v1", "mx", "v3", "m4", "vs", "m1", "v1n", "mi", "v7", "mf", "vq", "m5", "v1j", "m1", "v1"],
   ["mq", "va", "m4", "vr", "m3", "v1k", "m1", "v1", "mv", "v5", "m4", "vq", "m4", "v1j", "m2"],
   ["v1", "mg", "v9", "m1", "va", "m4", "vr", "m4", "v1x", "ms", "vc", "m2", "v1p", "m1", "v2"],
   ["mb", "v8", "m8", "v2q", "m1", "v2", "m9", "vb", "m8", "v20", "m2", "vr", "m1", "v1", "m1"],
   ["v1", "m1", "v4", "m2", "v1d", "mk", "v1", "m2", "v5", "m1d", "v8", "m1", "v2s", "mk", "vn"],
   ["m4", "v4", "m3", "v1", "m3", "v2", "m7", "v3", "m4", "vd", "mc", "v1", "m1", "va", "m4"],
   ["vjj", "m3", "vqa", "md", "vj", "m3", "vt", "me", "vi", "me", "v1i", "mu", "v9", "m3", "v4l"],
   ["m2", "vy", "m1", "v3a", "mw", "v5z", "m7", "v1j", "m17", "v1c", "m2d", "v1b", "mh", "v12"],
   ["m9", "vc", "m3", "vu", "md", "v1k", "mm", "v14", "mn", "v45", "m3", "v1", "ml", "v4", "m1"],
   ["v6", "m1", "v2", "m3", "v5i", "m1t", "vjz", "m1g", "v2cr", "m4", "v3w", "m1", "v2o", "mw"],
   ["vfe", "m6", "v2x", "m4", "vn9u", "m4", "v1", "ma", "vw", "m2", "v28", "m2", "v7k", "m1", "v3"],
   ["m1", "v4", "m1", "vn", "m5", "v4", "m4", "v28", "m2", "v1e", "mq", "vi", "mi", "vd", "m1"],
   ["v12", "m8", "vp", "mo", "vx", "m4", "v1b", "me", "v10", "m1", "v1v", "mn", "v3", "m1", "v8"],
   ["m4", "v17", "m3", "v1e", "m1", "v1", "m3", "v2", "m2", "v5", "m2", "v1", "m1", "v15", "m5"],
   ["v5", "mc", "v6a", "m8", "v1", "m4", "vfn2", "m44", "vha", "m11", "vqg", "m3n", "v2o", "m1"],
   ["v45", "ma", "v1a9", "mf", "v14", "m8", "v4l", "m6", "vft", "mc", "vaj", "m2", "v49", "mb"],
   ["v1d", "m4", "v3e", "m3", "v1h", "mf", "v15", "m1", "v2", "m2", "va", "m4", "v19", "mb", "v7"],
   ["me", "v1c", "m3", "v10", "mf", "vf", "m2", "v18", "m1", "vc", "m3", "v1c", "me", "v8", "m4"],
   ["v1", "m2", "v2k", "mc", "v6", "m1u", "v2n", "mh", "vg", "m5", "v1i", "m2", "v1", "mi", "v7"],
   ["m6", "v5", "m4e", "v1h", "mi", "vn", "m1", "v29", "mk", "v6j", "mi", "vr", "m10", "v1c", "mh"],
   ["v2y", "md", "v2t", "mj", "v70", "mf", "v6t", "mf", "v1", "m1", "v1", "m2", "v3x", "mg", "v3"],
   ["ms", "v1", "ma", "v14", "m7", "v1", "m4", "v8", "m9", "v1", "mb", "v1a", "mg", "vb9", "mh"],
   ["v2a", "m32", "v1d", "ml", "v1", "m9", "v1m", "me", "v9n", "m4", "vf09", "m5", "v1n", "m7"],
   ["vt4", "m1", "v1", "m1u", "v29", "ms", "vf4t", "m2", "v3mp", "m28", "vet", "m5", "v3", "mm"],
   ["v2", "m7", "vu", "m4", "v44", "m3", "v1iz", "m1j", "v4", "m1e", "v8", "m1", "ve", "m1", "vm"],
   ["mv9", "v74", "m74", "v1c", "m7", "vaf", "mi", "v18", "m4", "v15s", "m2a", "vy", "m7", "vl705"]]

/-- A character that extends the one before it. -/
def isMark (c : Char) : Bool := markTable.at? c == some 'm'

/-- How a letter joins its neighbours. -/
inductive Joining where
  | both
  | left
  | right
  | transparent
  | none
deriving DecidableEq, Repr

namespace Joining

/-- The joining behaviours, a letter each, and how many code points in a row have each. -/
def table : Text.Lettering := .ofWords
  [["ulc", "t35", "u7m", "t8", "u7a", "t19", "u1", "t1", "u1", "t2", "u1", "t2", "u1", "t9", "u1s"],
   ["tb", "u5", "d1", "u1", "r4", "d1", "r1", "d1", "r1", "d5", "r4", "dd", "c1", "d7", "r1", "d2"],
   ["tl", "ue", "d2", "t1", "r3", "u5", "df", "ri", "d12", "r1", "d2", "r9", "d1", "r1", "d1"],
   ["r1", "d2", "r2", "u1", "r1", "t8", "u1", "t6", "u2", "t2", "u1", "t4", "r2", "ua", "d3", "u2"],
   ["d1", "ug", "r1", "t1", "d3", "r5", "d4", "r1", "d9", "r1", "d1", "r1", "d1", "r1", "d2", "r1"],
   ["tt", "r1", "db", "r3", "df", "r2", "d4", "r1", "d1", "r2", "d3", "r2", "d6", "u12", "tb"],
   ["up", "dx", "t9", "u6", "c3", "t1", "uo", "t4", "u1", "t9", "u1", "t3", "u1", "t7", "ug", "r1"],
   ["d5", "r2", "d1", "r1", "da", "r1", "d1", "r3", "t5", "u2", "d1", "u1", "d4", "u1", "r1", "d1"],
   ["rq", "c3", "d1", "u2", "d5", "r1", "d8", "t9", "da", "r3", "u1", "r1", "d2", "r2", "d6", "r1"],
   ["df", "u1", "t1l", "u1j", "t1", "u1", "t1", "u4", "t8", "u4", "t1", "u3", "tf", "u2", "t2"],
   ["ut", "t1", "u1m", "t1", "u4", "t6", "u6", "t1", "uk", "t4", "uo", "t5", "u1l", "t2", "u3"],
   ["tr", "uk", "t2", "u3", "t1", "ub", "t2", "u1l", "t1", "u4", "t8", "u4", "t3", "ui", "t4"],
   ["uk", "t8", "u1m", "t1", "u2", "t1", "u1", "t6", "u6", "ta", "ub", "t4", "us", "t1", "u1p"],
   ["t1", "uc", "t3", "u1c", "t1", "u3", "t1", "u1j", "t1", "u1", "t3", "u5", "ti", "ua", "t4"],
   ["ur", "t1", "u1m", "t1", "u2", "t1", "u6", "t1", "u5", "t9", "ud", "t4", "uq", "t2", "u1l"],
   ["t2", "u4", "t5", "u7", "t1", "uk", "t4", "ur", "t1", "u20", "t5", "u3", "t6", "u2h", "t1"],
   ["u2", "tb", "u8", "t8", "u2q", "t1", "u2", "t9", "ub", "t8", "u20", "t2", "ur", "t1", "u1"],
   ["t1", "u1", "t1", "u1j", "te", "u1", "t5", "u1", "t2", "u5", "t1d", "u8", "t1", "u2u", "t4"],
   ["u1", "t6", "u1", "t2", "u2", "t2", "up", "t2", "u4", "t3", "ug", "t4", "ud", "t1", "u2", "t2"],
   ["u6", "t1", "uf", "t1", "ujj", "t3", "uqa", "t3", "ut", "t2", "uu", "te", "ui", "te", "u1j"],
   ["t7", "u8", "t1", "u2", "tb", "u9", "t3", "u13", "d1", "u2", "c6", "ug", "d2o", "u5", "t2"],
   ["dy", "t1", "d6", "u34", "t3", "u4", "t2", "u9", "t1", "u6", "t7", "u5z", "t2", "u2", "t3"],
   ["u1k", "t1", "u1", "t9", "u1", "t1", "u2", "t8", "u6", "td", "u1c", "t2c", "u1c", "t1", "u1"],
   ["t5", "u1", "t1", "u5", "t1", "u14", "t9", "uc", "t2", "uw", "t4", "u2", "t2", "u1", "t3"],
   ["u1k", "t1", "u1", "t2", "u3", "t1", "u1", "t3", "u1m", "t8", "u2", "t5", "u45", "t3", "u1"],
   ["td", "u1", "t7", "u4", "t1", "u6", "t1", "u3", "t2", "u5i", "t1t", "uek", "c3", "u5c", "t1g"],
   ["u2cr", "t4", "u3w", "t1", "u2o", "tw", "ufe", "t4", "u2z", "t4", "un9u", "t4", "u1", "ta"],
   ["uw", "t2", "u28", "t2", "u7k", "t1", "u3", "t1", "u4", "t1", "up", "t2", "u5", "t4", "ug"],
   ["d1e", "l1", "u29", "ta", "ui", "ti", "ud", "t1", "u12", "t8", "up", "tb", "u1a", "t3", "u1c"],
   ["t1", "u2", "t4", "u2", "t2", "u13", "t1", "u1v", "t6", "u2", "t2", "u2", "tb", "u3", "t1"],
   ["u8", "t1", "u1b", "t1", "u1f", "t1", "u1", "t3", "u2", "t2", "u5", "t2", "u1", "t1", "u16"],
   ["t2", "u8", "tb", "u6c", "t1", "u2", "t1", "u4", "t3", "ufn2", "t44", "uha", "t11", "uqg"],
   ["t3n", "u2o", "t1", "u45", "ta", "u1a9", "tf", "u14", "t8", "u3k", "d5", "r1", "u1", "r1"],
   ["u1", "r2", "u2", "l1", "r5", "d4", "l1", "d5", "r1", "d3", "r1", "u2", "r1", "t6", "d4", "r1"],
   ["u40", "d1", "r1", "d1", "r3", "d3", "r1", "d2", "r1", "d1", "r2", "d1", "r8", "ug", "r4"],
   ["d2", "u9d", "l1", "dx", "r1", "d1", "tc", "u1l", "t6v", "u23", "t2", "ul", "r1", "d1j", "t6"],
   ["u1c", "d3", "r1", "dh", "u1", "tb", "d3", "r1", "ur", "d4", "r2", "dc", "t4", "u16", "d1"],
   ["u1", "d2", "r3", "u1", "d1", "r2", "d2", "r1", "d2", "u1", "d1", "r2", "d1", "u4", "r1", "d1"],
   ["ll", "ux", "t1", "u1i", "tf", "u15", "t1", "u2", "t2", "ua", "t3", "u1d", "t4", "u2", "t2"],
   ["u7", "te", "u1c", "t3", "u10", "t5", "u1", "t9", "u1p", "t1", "uc", "t2", "u1g", "t9", "ua"],
   ["t4", "u2", "t1", "u2n", "t3", "u2", "t1", "u1", "t2", "u6", "t1u", "u2n", "t1", "u3", "td"],
   ["ug", "t2", "u1l", "t2", "u3", "t1", "u11", "t4a", "u1k", "t8", "u2", "t3", "u1", "t1", "un"],
   ["t1", "u2c", "t6", "u1", "t1", "u4", "t2", "u1", "t2", "u6m", "t6", "u4", "t2", "u1", "t2"],
   ["ur", "t10", "u1f", "t8", "u2", "t1", "u1", "t2", "u2y", "t1", "u1", "t1", "u2", "t6", "u1"],
   ["t1", "u2t", "t1", "u1", "t1", "u2", "t4", "u1", "t9", "u73", "t9", "u1", "t2", "u74", "t2"],
   ["u1", "t1", "u4", "t1", "u40", "t8", "u4", "t1", "uw", "ta", "u14", "t6", "u2", "t4", "u8"],
   ["t9", "u1", "t6", "u2", "t3", "u1a", "td", "u1", "t2", "u5i", "t4g", "u1c", "te", "u1", "t1"],
   ["u2a", "tn", "u1", "t7", "u1", "t2", "u1", "t23", "u1d", "tl", "u1", "t9", "u1s", "t3", "u2"],
   ["t1", "u1", "t1", "u9n", "t2", "ub", "t4w", "u428", "t340", "u5r2", "t1cy", "ukw", "t5", "u1n"],
   ["t7", "ut4", "t1", "u1r", "t4", "u29", "tc", "uf59", "t2", "u3mp", "t28", "uev", "t3", "uh"],
   ["t8", "u2", "t7", "uu", "t4", "u44", "t3", "u1iz", "t1j", "u4", "t1e", "u8", "t1", "ue", "t1"],
   ["um", "tv9", "u74", "t74", "u1c", "t7", "uaf", "ti", "u18", "t4", "ue4", "tl0", "u6o", "t2a"],
   ["dy", "tc", "ul700"]]

/-- How a character joins its neighbours. -/
def of (c : Char) : Joining :=
  match table.at? c with
  | some 'd' => .both
  | some 'l' => .left
  | some 'r' => .right
  | some 't' => .transparent
  | _ => .none

end Joining

/-- The joiner that keeps letters apart. -/
def nonJoiner : Char := '\u200C'

/-- The joiner that ties letters. -/
def joiner : Char := '\u200D'

/-- The combining class of the signs that take away a vowel. -/
def viramaClass : Nat := 9

/-- The first character of a text that is not transparent joins to its left or right. -/
def nextJoins (sides : List Joining) (cs : List Char) : Bool :=
  match (cs.map Joining.of).dropWhile (· == .transparent) with
  | [] => false
  | j :: _ => sides.contains j

/-- The joiners of a label stand where they may; `before` holds what is in front, in reverse. -/
def joinersFitAfter (before : List Char) : List Char → Bool
  | [] => true
  | c :: cs =>
    let afterVirama := match before with
      | [] => false
      | b :: _ => Text.combiningClass b == viramaClass
    let fits :=
      if c = joiner then afterVirama
      else if c = nonJoiner then
        afterVirama || (nextJoins [.left, .both] before && nextJoins [.right, .both] cs)
      else true
    fits && joinersFitAfter (c :: before) cs

/-- The joiners of a label stand where they may. -/
def joinersFit (cs : List Char) : Bool := joinersFitAfter [] cs

end Teller.Domain
