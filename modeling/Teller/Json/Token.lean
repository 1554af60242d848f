import Teller.Json.Fault
import Teller.Text.Hex

/-!
# Strings and numbers of a JSON text

Tokens are read without any judgement of their content; what a string or a number stands for is
asked of the token later, and only where its value is wanted.

* `Gap`: where a text breaks off. A value that is skipped is checked less closely than one that is
  decoded, so a gap holds the fault of either reading.
* `Quoted`: a string, as characters and 16-bit units; `Quoted.text`: its characters, unless a
  surrogate stands alone.
* `Numeral`: the digits of a number; `Numeral.number`: its value.
-/

namespace Teller.Json

open Text (hexValue?)

/-- Where a text breaks off: the fault of decoding it, and the fault of skipping it. -/
structure Gap where
  decoding : Fault
  skipping : Fault

/-- A gap with the same fault in both readings. -/
def Gap.both (f : Fault) : Gap := ⟨f, f⟩

/-- The four characters that may stand between tokens. -/
def isSpace (c : Char) : Bool := c == ' ' || c == '\n' || c == '\t' || c == '\r'

/-- The text from its next token on. -/
def skipSpace (s : List Char) : List Char := s.dropWhile isSpace

/-- The unit that four hexadecimal digits name. -/
def hexUnit? (a b c d : Char) : Option Nat := do
  return (((← hexValue? a) * 16 + (← hexValue? b)) * 16 + (← hexValue? c)) * 16 + (← hexValue? d)

/-- The character of an escape of one letter. -/
def shortEscape? (c : Char) : Option Char :=
  if c = '"' || c = '\\' || c = '/' then some c
  else if c = 'b' then some '\x08'
  else if c = 'f' then some '\x0c'
  else if c = 'n' then some '\n'
  else if c = 'r' then some '\r'
  else if c = 't' then some '\t'
  else none

/-- A part of a string: a character, or a unit given by its number, with the text behind it. -/
inductive Piece where
  | char (c : Char)
  | unit (n : Nat) (rest : List Char)

/-- A string: its parts, and the text behind its closing quote. -/
structure Quoted where
  pieces : List Piece
  ending : Except Gap (List Char)

/-- The string breaks off at a faulty unit number: four octets are taken for it, if there are so
many. -/
def badUnit (s : List Char) : Gap :=
  if 4 ≤ Text.Utf8.size s then .both ⟨.badEscape, s, 4⟩ else .both ⟨.endInText, [], 0⟩

/-- Adds a part in front. -/
def Quoted.push (p : Piece) (q : Quoted) : Quoted := ⟨p :: q.pieces, q.ending⟩

/-- Reads a string from behind its opening quote. -/
def Quoted.read : List Char → Quoted
  | [] => ⟨[], .error (.both ⟨.endInText, [], 0⟩)⟩
  | c :: r =>
    if c = '"' then ⟨[], .ok r⟩
    else if c = '\\' then
      match r with
      | [] => ⟨[], .error (.both ⟨.endInText, [], 0⟩)⟩
      | 'u' :: a :: b :: d :: e :: r' =>
        match hexUnit? a b d e with
        | some n => (Quoted.read r').push (.unit n r')
        | none => ⟨[], .error (badUnit (a :: b :: d :: e :: r'))⟩
      | 'u' :: r' => ⟨[], .error (badUnit r')⟩
      | x :: r' =>
        match shortEscape? x with
        | some y => (Quoted.read r').push (.char y)
        | none => ⟨[], .error (.both ⟨.badEscape, x :: r', 1⟩)⟩
    else if c.toNat < 0x20 then
      ⟨[], .error ⟨⟨.controlCharacter, c :: r, 1⟩, ⟨.controlCharacter, c :: r, 0⟩⟩⟩
    else (Quoted.read r).push (.char c)

/-- The fault of a leading surrogate that no other unit follows: the text behind it tells how the
escape of a trailing one is missing. -/
def cutShort (ending : Except Gap (List Char)) : List Char → Fault
  | [] => ⟨.endInText, [], 0⟩
  | ['\\'] => ⟨.endInText, [], 0⟩
  | '\\' :: 'u' :: _ =>
    match ending with
    | .error gap => gap.decoding
    | .ok r => ⟨.escapeCutShort, r, 0⟩
  | '\\' :: s => ⟨.escapeCutShort, s, 1⟩
  | s => ⟨.escapeCutShort, s, 1⟩

/-- The characters of the parts. Units outside the surrogates are characters; a leading and a
trailing surrogate make one; any other surrogate is a fault. -/
def decodePieces (ending : Except Gap (List Char)) : List Piece → Except Fault (List Char)
  | [] =>
    match ending with
    | .ok _ => .ok []
    | .error gap => .error gap.decoding
  | .char c :: ps => (c :: ·) <$> decodePieces ending ps
  | .unit n r :: ps =>
    if 0xDC00 ≤ n && n ≤ 0xDFFF then .error ⟨.loneSurrogate, r, 0⟩
    else if 0xD800 ≤ n && n ≤ 0xDBFF then
      match ps with
      | .unit m r' :: ps' =>
        if 0xDC00 ≤ m && m ≤ 0xDFFF then
          (Char.ofNat ((n - 0xD800) * 0x400 + (m - 0xDC00) + 0x10000) :: ·) <$>
            decodePieces ending ps'
        else .error ⟨.loneSurrogate, r', 0⟩
      | _ => .error (cutShort ending r)
    else (Char.ofNat n :: ·) <$> decodePieces ending ps

/-- The text of a string. -/
def Quoted.text (q : Quoted) : Except Fault String :=
  String.ofList <$> decodePieces q.ending q.pieces

/-- The fault of skipping a string. -/
def Quoted.skip (q : Quoted) : Except Fault Unit :=
  match q.ending with
  | .ok _ => .ok ()
  | .error gap => .error gap.skipping

/-- The text behind a string; nothing where it breaks off. -/
def Quoted.rest (q : Quoted) : List Char :=
  match q.ending with
  | .ok r => r
  | .error _ => []

/-- A number: sign, digits before the point, digits behind it, exponent, and the text behind. -/
structure Numeral where
  negative : Bool
  whole : List Char
  fraction : Option (List Char) := none
  exponent : Option (Bool × List Char) := none
  ending : Except Gap (List Char)

/-- Reads the exponent of a number from behind its letter. -/
def readExponent (negative : Bool) (whole : List Char) (fraction : Option (List Char))
    (s : List Char) : Numeral :=
  let (down, s) :=
    match s with
    | '-' :: r => (true, r)
    | '+' :: r => (false, r)
    | r => (false, r)
  match s with
  | [] => ⟨negative, whole, fraction, none, .error ⟨⟨.endInValue, [], 0⟩, ⟨.badNumber, [], 0⟩⟩⟩
  | d :: _ =>
    if d.isDigit then
      ⟨negative, whole, fraction, some (down, s.takeWhile Char.isDigit),
        .ok (s.dropWhile Char.isDigit)⟩
    else ⟨negative, whole, fraction, none, .error (.both ⟨.badNumber, s, 1⟩)⟩

/-- Reads what follows the digits before the point. -/
def readFraction (negative : Bool) (whole : List Char) (s : List Char) : Numeral :=
  match s with
  | [] => ⟨negative, whole, none, none, .ok []⟩
  | c :: r =>
    if c = '.' then
      match r with
      | [] => ⟨negative, whole, none, none, .error ⟨⟨.endInValue, [], 0⟩, ⟨.badNumber, [], 0⟩⟩⟩
      | d :: _ =>
        if d.isDigit then
          let digits := r.takeWhile Char.isDigit
          match r.dropWhile Char.isDigit with
          | e :: r' =>
            if e = 'e' || e = 'E' then readExponent negative whole (some digits) r'
            else ⟨negative, whole, some digits, none, .ok (e :: r')⟩
          | [] => ⟨negative, whole, some digits, none, .ok []⟩
        else ⟨negative, whole, none, none, .error (.both ⟨.badNumber, r, 1⟩)⟩
    else if c = 'e' || c = 'E' then readExponent negative whole none r
    else ⟨negative, whole, none, none, .ok s⟩

/-- Reads a number from behind its sign. No digit may follow a leading zero. -/
def Numeral.read (negative : Bool) (s : List Char) : Numeral :=
  match s with
  | [] => ⟨negative, [], none, none, .error ⟨⟨.endInValue, [], 0⟩, ⟨.badNumber, [], 0⟩⟩⟩
  | c :: r =>
    if c = '0' then
      match r with
      | d :: _ =>
        if d.isDigit then ⟨negative, [], none, none, .error (.both ⟨.badNumber, r, 1⟩)⟩
        else readFraction negative [c] r
      | [] => readFraction negative [c] []
    else if c.isDigit then
      readFraction negative (s.takeWhile Char.isDigit) (s.dropWhile Char.isDigit)
    else ⟨negative, [], none, none, .error (.both ⟨.badNumber, s, 1⟩)⟩

/-- The value of a decimal digit. -/
def digit (c : Char) : Nat := c.toNat - '0'.toNat

/-- Takes digits into a number while it stays below `2 ^ 64`; the digits left over only shift it. -/
def absorb (n : Nat) : List Char → Nat × List Char
  | [] => (n, [])
  | d :: ds => if n * 10 + digit d < UInt64.size then absorb (n * 10 + digit d) ds else (n, d :: ds)

/-- The digits of an exponent, up to the one that takes it beyond `2 ^ 31`. -/
def exponentOf (n : Nat) : List Char → Except (List Char) Nat
  | [] => .ok n
  | d :: ds => if n * 10 + digit d < 0x80000000 then exponentOf (n * 10 + digit d) ds else .error ds

/-- Divides by a power of ten, in steps that a double can hold. -/
def divideByTen : Nat → Float → Nat → Float
  | 0, _, _ => 0
  | k + 1, x, e =>
    if e ≤ 308 then x / Float.ofScientific 1 false e
    else if x == 0 then x
    else divideByTen k (x / 1e308) (e - 308)

/-- The double nearest to `n` times, or divided by, a power of ten; `none` beyond the largest. Three
divisions leave nothing of a number below `2 ^ 64`. -/
def scale (n : Nat) (e : Int) : Option Float :=
  let x := n.toUInt64.toFloat
  if 0 ≤ e then
    if e ≤ 308 then
      let y := x * Float.ofScientific 1 false e.toNat
      if y.isInf then none else some y
    else if x == 0 then some x else none
  else some (divideByTen 3 x (-e).toNat)

/-- The value of a number that `rest` follows. -/
def Numeral.number (n : Numeral) (rest : List Char) : Except Fault Number :=
  let sign (x : Float) : Number := .float (if n.negative then -x else x)
  let (significand, left) := absorb 0 n.whole
  let (significand, point) :=
    match n.fraction with
    | none => (significand, (left.length : Int))
    | some ds =>
      let (significand, left') := absorb significand ds
      (significand, (left.length : Int) - (ds.length - left'.length : Nat))
  let scaled (e : Int) : Except Fault Number :=
    match scale significand e with
    | some x => .ok (sign x)
    | none => .error ⟨.numberTooLarge, rest, 0⟩
  match n.exponent with
  | some (down, ds) =>
    match exponentOf 0 ds with
    | .ok e => scaled (if down then point - e else point + e)
    | .error beyond =>
      if significand ≠ 0 ∧ !down then .error ⟨.numberTooLarge, beyond ++ rest, 0⟩ else .ok (sign 0)
  | none =>
    if n.fraction.isSome || !left.isEmpty then scaled point
    else if !n.negative then .ok (.integer significand)
    else if significand = 0 || significand > 0x8000000000000000 then
      .ok (sign significand.toUInt64.toFloat)
    else .ok (.integer (-significand))

end Teller.Json
