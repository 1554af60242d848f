import Teller.Decimal.Nearest
import Teller.Text.Hex

/-!
# TOML numbers and moments

* `readInteger`: a number of 64 bits with a sign, in four bases.
* `readFloat`: a number with a fraction or an exponent.
* `readMoment`: a date, a time, or both.

Readers give what they read and the text behind it, or nothing.
-/

namespace Teller.Toml

open Text (hexValue?)

/-- The value of a digit in a base. -/
def digitIn? (base : Nat) (c : Char) : Option Nat := (hexValue? c).filter (· < base)

/-- Reads on in a row of digits, with at most one underscore between two of them. -/
def readDigitsOn (base : Nat) : List Char → List Nat × List Char
  | [] => ([], [])
  | c :: r =>
    match digitIn? base c with
    | some d => ((readDigitsOn base r).1.cons d, (readDigitsOn base r).2)
    | none =>
      if c = '_' then
        match r with
        | [] => ([], [c])
        | d :: r' =>
          match digitIn? base d with
          | some n => ((readDigitsOn base r').1.cons n, (readDigitsOn base r').2)
          | none => ([], c :: d :: r')
      else ([], c :: r)

/-- Reads a row of digits, one at least. -/
def readDigits (base : Nat) : List Char → Option (List Nat × List Char)
  | [] => none
  | c :: r =>
    (digitIn? base c).map fun d => ((readDigitsOn base r).1.cons d, (readDigitsOn base r).2)

/-- The number of some digits. -/
def ofDigits (base : Nat) (ds : List Nat) : Nat := ds.foldl (fun n d => n * base + d) 0

/-- Reads a sign, if there is one; true is a minus. -/
def readSign : List Char → Bool × List Char
  | '+' :: r => (false, r)
  | '-' :: r => (true, r)
  | s => (false, s)

/-- Reads the digits of a decimal integer; nothing follows a leading zero. -/
def readWhole : List Char → Option (List Nat × List Char)
  | '0' :: r => some ([0], r)
  | s => readDigits 10 s

/-- An integer that fits into 64 bits with a sign. -/
def fit? (n : Int) : Option Int :=
  if Int64.minValue.toInt ≤ n ∧ n ≤ Int64.maxValue.toInt then some n else none

/-- Reads an integer behind the mark of its base. -/
def readBased (base : Nat) (s : List Char) : Option (Int × List Char) := do
  let (ds, r) ← readDigits base s
  return (← fit? (ofDigits base ds), r)

/-- Reads an integer. -/
def readInteger : List Char → Option (Int × List Char)
  | '0' :: 'x' :: r => readBased 16 r
  | '0' :: 'o' :: r => readBased 8 r
  | '0' :: 'b' :: r => readBased 2 r
  | s => do
    let (negative, r) := readSign s
    let (ds, r) ← readWhole r
    let n : Int := ofDigits 10 ds
    return (← fit? (if negative then -n else n), r)

/-- Reads a fraction with its point. -/
def readFraction : List Char → Option (List Nat × List Char)
  | '.' :: r => readDigits 10 r
  | _ => none

/-- Reads an exponent with its letter. -/
def readExponent : List Char → Option (Int × List Char)
  | c :: r =>
    if c = 'e' ∨ c = 'E' then
      let (negative, r) := readSign r
      (readDigits 10 r).map fun (ds, r) =>
        let n : Int := ofDigits 10 ds
        (if negative then -n else n, r)
    else none
  | [] => none

/-- A double with a sign. -/
def signed (negative : Bool) (x : Float) : Float := if negative then -x else x

/-- Reads the names of infinity and of what is no number. -/
def readSpecial (negative : Bool) : List Char → Option (Float × List Char)
  | 'i' :: 'n' :: 'f' :: r => some (signed negative (1.0 / 0.0), r)
  | 'n' :: 'a' :: 'n' :: r => some (signed negative (0.0 / 0.0), r)
  | _ => none

/-- Reads a number with a fraction or an exponent. One above the largest double is none. -/
def readDecimal (negative : Bool) (s : List Char) : Option (Float × List Char) := do
  let (whole, r) ← readWhole s
  let fraction := readFraction r
  let r := (fraction.map (·.2)).getD r
  let exponent := readExponent r
  if fraction.isNone ∧ exponent.isNone then none
  let places := (fraction.map (·.1)).getD []
  let r := (exponent.map (·.2)).getD r
  let x := Decimal.nearest (ofDigits 10 (whole ++ places))
    ((exponent.map (·.1)).getD 0 - places.length)
  if x.isInf ∧ ¬ negative then none
  return (signed negative x, r)

/-- Reads a floating point number. -/
def readFloat (s : List Char) : Option (Float × List Char) :=
  let (negative, r) := readSign s
  (readSpecial negative r).or (readDecimal negative r)

/-- Reads so many digits. -/
def readFixed : Nat → Nat → List Char → Option (Nat × List Char)
  | 0, acc, s => some (acc, s)
  | n + 1, acc, c :: r => (digitIn? 10 c).bind fun d => readFixed n (acc * 10 + d) r
  | _ + 1, _, [] => none

/-- Reads two digits whose number lies between two others. -/
def readPair (low high : Nat) (s : List Char) : Option (Nat × List Char) :=
  (readFixed 2 0 s).filter fun (n, _) => low ≤ n && n ≤ high

/-- Reads a character. -/
def readChar (c : Char) : List Char → Option (List Char)
  | d :: r => if c = d then some r else none
  | [] => none

/-- The number of days of a month. -/
def daysOf (year month : Nat) : Nat :=
  if month = 2 then
    if year % 4 = 0 ∧ (year % 100 ≠ 0 ∨ year % 400 = 0) then 29 else 28
  else if month ∈ [4, 6, 9, 11] then 30
  else 31

/-- Reads a date. -/
def readDate (s : List Char) : Option (List Char) := do
  let (year, r) ← readFixed 4 0 s
  let (month, r) ← readPair 1 12 (← readChar '-' r)
  let (_, r) ← readPair 1 (daysOf year month) (← readChar '-' r)
  return r

/-- Reads hours and minutes. -/
def readHourMinute (s : List Char) : Option (List Char) := do
  let (_, r) ← readPair 0 23 s
  let (_, r) ← readPair 0 59 (← readChar ':' r)
  return r

/-- Reads the parts of a second, if there are any. -/
def dropSecondParts : List Char → List Char
  | '.' :: d :: r => if d.isDigit then r.dropWhile Char.isDigit else '.' :: d :: r
  | s => s

/-- Reads a time of day. A minute may have a leap second. -/
def readTime (s : List Char) : Option (List Char) := do
  let r ← readHourMinute s
  let (_, r) ← readPair 0 60 (← readChar ':' r)
  return dropSecondParts r

/-- Reads the distance from universal time, if there is one. -/
def dropZone : List Char → List Char
  | [] => []
  | c :: r =>
    if c = 'Z' ∨ c = 'z' then r
    else if c = '+' ∨ c = '-' then (readHourMinute r).getD (c :: r)
    else c :: r

/-- Reads the time behind a date, if there is one. -/
def dropTime : List Char → List Char
  | [] => []
  | c :: r =>
    if c = 'T' ∨ c = 't' ∨ c = ' ' then ((readTime r).map dropZone).getD (c :: r) else c :: r

/-- Reads a date, a time, or both. -/
def readMoment (s : List Char) : Option (List Char) :=
  match readDate s with
  | some r => some (dropTime r)
  | none => readTime s

end Teller.Toml
