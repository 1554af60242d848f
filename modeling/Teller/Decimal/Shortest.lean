/-!
# The shortest decimal that reads back

A finite double is `mantissa * 2 ^ power`; every real near enough to it reads back as the same
double. Of the decimals in that interval the shortest is written, and of two that are equally
short the nearer one.

* `Double.ofBits`: sign, mantissa and power of a double.
* `Interval`: the reals that read back, over one denominator.
* `Interval.shortest`: the decimal, found by trying one digit, two digits, and so on, on the two
  grid points next to the value.
* `Layout`: how a number format writes such a decimal.
-/

namespace Teller.Decimal

/-- A positive decimal: `digits * 10 ^ exponent`. -/
structure Scientific where
  digits : Nat
  exponent : Int
deriving DecidableEq, Repr

/-- A power of a base; exponents below zero count as zero, so `x` times `base ^ e` is
`x * power base e / power base (-e)`. -/
def power (base : Nat) (exponent : Int) : Nat := Nat.pow base exponent.toNat

/-- The reals from `low` to `high` around `value`, all over one denominator; `closed` tells whether
the two ends belong to it. -/
structure Interval where
  low : Nat
  value : Nat
  high : Nat
  denominator : Nat
  closed : Bool

namespace Interval

/-- The reals that read back as `mantissa * 2 ^ exponent`. The gap below is half as wide where the
mantissa is the least of its power of two (`narrow`). -/
def ofBinary (mantissa : Nat) (exponent : Int) (narrow : Bool) : Interval :=
  let up := power 2 exponent
  { low := (4 * mantissa - if narrow then 1 else 2) * up
    value := 4 * mantissa * up
    high := (4 * mantissa + 2) * up
    denominator := 4 * power 2 (-exponent)
    closed := mantissa % 2 == 0 }

/-- `digits * 10 ^ exponent` lies in the interval. -/
def holds (i : Interval) (digits : Nat) (exponent : Int) : Bool :=
  let x := digits * power 10 exponent * i.denominator
  let scale := power 10 (-exponent)
  if i.closed then i.low * scale ≤ x && x ≤ i.high * scale
  else i.low * scale < x && x < i.high * scale

/-- The power of ten of the leading digit of the value, searched from `guess` downwards. -/
def leading (i : Interval) : Nat → Int → Int
  | 0, guess => guess
  | n + 1, guess =>
    if power 10 guess * i.denominator ≤ i.value * power 10 (-guess) then guess
    else leading i n (guess - 1)

/-- The better of the two grid points next to the value, on the grid of unit `10 ^ exponent`. -/
def neighbour? (i : Interval) (exponent : Int) : Option Scientific :=
  let num := i.value * power 10 (-exponent)
  let den := i.denominator * power 10 exponent
  let below := num / den
  let above := below + 1
  match holds i below exponent, holds i above exponent with
  | false, false => none
  | true, false => some ⟨below, exponent⟩
  | false, true => some ⟨above, exponent⟩
  | true, true =>
    let rest := num % den
    if 2 * rest < den || (2 * rest == den && below % 2 == 0) then some ⟨below, exponent⟩
    else some ⟨above, exponent⟩

/-- The first grid that has a point in the interval, from `exponent` downwards. -/
def firstGrid (i : Interval) : Nat → Int → Scientific
  | 0, exponent =>
    ⟨i.value * power 10 (-exponent) / (i.denominator * power 10 exponent), exponent⟩
  | n + 1, exponent => (neighbour? i exponent).getD (firstGrid i n (exponent - 1))

/-- **The shortest decimal of the interval.** Seventeen digits always suffice for a double. -/
def shortest (i : Interval) : Scientific := firstGrid i 17 (leading i 700 330)

end Interval

/-- A double: a sign, and a mantissa times a power of two, or one of the two special values. -/
inductive Double where
  | finite (negative : Bool) (mantissa : Nat) (power : Int) (narrow : Bool)
  | infinite (negative : Bool)
  | notANumber
deriving DecidableEq, Repr

/-- Reads the fields of the binary format. -/
def Double.ofBits (bits : UInt64) : Double :=
  let n := bits.toNat
  let negative := n / 0x8000000000000000 == 1
  let biased : Nat := n / 0x10000000000000 % 2048
  let fraction := n % 0x10000000000000
  if biased == 2047 then if fraction == 0 then .infinite negative else .notANumber
  else if biased == 0 then .finite negative fraction (-1074) false
  else
    .finite negative (0x10000000000000 + fraction) ((biased : Int) - 1075)
      (fraction == 0 && biased > 1)

/-- A decimal without trailing zeros among its digits. -/
def Scientific.trimmed (s : Scientific) : List Char × Int :=
  let ds := Nat.toDigits 10 s.digits
  let kept := (ds.reverse.dropWhile (· == '0')).reverse
  (kept, s.exponent + (ds.length - kept.length))

/-- How a format writes numbers: the exponents of the leading digit for which it needs no
exponent, and the names of the special values. -/
structure Layout where
  plain : Int → Bool
  infinity : String
  notANumber : String

namespace Layout

/-- Digits without an exponent, always with a decimal point. -/
def positional (ds : List Char) (exponent : Int) : List Char :=
  if 0 ≤ exponent then ds ++ List.replicate exponent.toNat '0' ++ ['.', '0']
  else
    let places := (-exponent).toNat
    if places < ds.length then ds.take (ds.length - places) ++ '.' :: ds.drop (ds.length - places)
    else ['0', '.'] ++ List.replicate (places - ds.length) '0' ++ ds

/-- One digit before the point and an exponent of two digits or more with its sign. -/
def scientific (ds : List Char) (leading : Int) : List Char :=
  let e := Nat.toDigits 10 leading.natAbs
  ds.take 1 ++ (if ds.length = 1 then [] else '.' :: ds.drop 1) ++
    ['e', if leading < 0 then '-' else '+'] ++ (if e.length = 1 then '0' :: e else e)

/-- The text of a double. -/
def write (l : Layout) (x : Float) : String :=
  match Double.ofBits x.toBits with
  | .notANumber => l.notANumber
  | .infinite negative => (if negative then "-" else "") ++ l.infinity
  | .finite negative mantissa power narrow =>
    let body :=
      if mantissa = 0 then ['0', '.', '0']
      else
        let (ds, exponent) := (Interval.ofBinary mantissa power narrow).shortest.trimmed
        let leading := exponent + ds.length - 1
        if l.plain leading then positional ds exponent else scientific ds leading
    (if negative then "-" else "") ++ String.ofList body

end Layout

end Teller.Decimal
