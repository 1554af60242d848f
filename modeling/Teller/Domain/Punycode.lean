/-!
# Punycode

The letters of a label outside ASCII are written behind the others as one number: where each of
them goes and how far it lies behind the one before.

* `Punycode.encode`: the letters of a label in ASCII.
* `Punycode.decode?`: the label that ASCII letters stand for.
-/

namespace Teller.Domain.Punycode

/-- The number of digits. -/
def base : Nat := 36

/-- The first code point outside ASCII, where counting starts. -/
def firstPoint : Nat := 0x80

/-- The bias of the first number. -/
def firstBias : Nat := 72

/-- The value from which on a digit is the last one, for the digit of weight number `k`. -/
def threshold (k bias : Nat) : Nat :=
  if k ≤ bias + 1 then 1 else if bias + 26 ≤ k then 26 else k - bias

theorem threshold_pos (k bias : Nat) : 1 ≤ threshold k bias := by
  unfold threshold
  split
  · omega
  · split <;> omega

theorem threshold_le (k bias : Nat) : threshold k bias ≤ 26 := by
  unfold threshold
  split
  · omega
  · split <;> omega

/-- Halves a distance until it is small, and says how many digits that took. -/
def settle (k delta : Nat) : Nat :=
  if 455 < delta then settle (k + base) (delta / 35) else k + 36 * delta / (delta + 38)
termination_by delta
decreasing_by omega

/-- The bias of the number behind a distance `delta`, when the label has `size` letters. -/
def adapt (delta size : Nat) (first : Bool) : Nat :=
  let d := if first then delta / 700 else delta / 2
  settle 0 (d + d / size)

/-- The digit of a value below 36. -/
def digit (n : Nat) : Char :=
  if n < 26 then Char.ofNat ('a'.toNat + n) else Char.ofNat ('0'.toNat + (n - 26))

/-- The value of a digit. -/
def value? (c : Char) : Option Nat :=
  if c.isDigit then some (c.toNat - '0'.toNat + 26)
  else if c.isLower then some (c.toNat - 'a'.toNat)
  else if c.isUpper then some (c.toNat - 'A'.toNat)
  else none

/-- The digits of a number, the one of the least weight first. -/
def digits (k bias n : Nat) : List Char :=
  let t := threshold k bias
  if n < t then [digit n]
  else digit (t + (n - t) % (base - t)) :: digits (k + base) bias ((n - t) / (base - t))
termination_by n
decreasing_by
  have h1 := threshold_pos k bias
  have h2 := threshold_le k bias
  have : (n - threshold k bias) / (base - threshold k bias) ≤ n - threshold k bias :=
    Nat.div_le_self ..
  simp only [t] at *
  omega

/-- The state of an encoder: the distance since the last number, the bias, the letters written so
far, and the numbers. -/
structure Encoder where
  delta : Nat
  bias : Nat
  size : Nat
  first : Bool
  out : List Char

/-- One letter of the label, while the letters of the code point `n` are written. -/
def Encoder.pass (n : Nat) (s : Encoder) (c : Char) : Encoder :=
  if c.toNat < n then ⟨s.delta + 1, s.bias, s.size, s.first, s.out⟩
  else if c.toNat = n then
    ⟨0, adapt s.delta (s.size + 1) s.first, s.size + 1, false,
      s.out ++ digits base s.bias s.delta⟩
  else s

/-- Writes the letters of one code point after another; `n` is the point that counting has
reached. -/
def encodePoints (cs : List Char) (n : Nat) (s : Encoder) : List Nat → List Char
  | [] => s.out
  | m :: ms =>
    let s := ⟨s.delta + (m - n) * (s.size + 1), s.bias, s.size, s.first, s.out⟩
    let s := cs.foldl (Encoder.pass m) s
    encodePoints cs (m + 1) ⟨s.delta + 1, s.bias, s.size, s.first, s.out⟩ ms

/-- The code points of a label outside ASCII, each once, in rising order. -/
def points (cs : List Char) : List Nat :=
  ((cs.map Char.toNat).filter (firstPoint ≤ ·)).mergeSort.eraseDups

/-- The letters of a label in ASCII: the ASCII letters, a hyphen if there are any, and the others
as numbers. -/
def encode (cs : List Char) : List Char :=
  let plain := cs.filter (·.toNat < firstPoint)
  let front := if plain.isEmpty then [] else plain ++ ['-']
  encodePoints cs firstPoint ⟨0, firstBias, plain.length, true, front⟩ (points cs)

/-- The state of a decoder: the label so far, the code point and the place that counting has
reached, the bias, and the number that is being read with the weight and the place of its next
digit. -/
structure Decoder where
  label : List Char
  point : Nat
  place : Nat
  bias : Nat
  sum : Nat
  weight : Nat
  k : Nat

/-- A decoder in front of a number. -/
def Decoder.start (label : List Char) (point place bias : Nat) : Decoder :=
  ⟨label, point, place, bias, place, 1, base⟩

/-- Reads one digit. Behind the last one of a number a letter goes into the label. -/
def Decoder.step (s : Decoder) (c : Char) : Option Decoder := do
  let d ← value? c
  let sum := s.sum + d * s.weight
  let t := threshold s.k s.bias
  if t ≤ d then return ⟨s.label, s.point, s.place, s.bias, sum, s.weight * (base - t), s.k + base⟩
  let size := s.label.length + 1
  let point := s.point + sum / size
  let place := sum % size
  if ¬ point.isValidChar then none
  return Decoder.start (s.label.take place ++ Char.ofNat point :: s.label.drop place) point
    (place + 1) (adapt (sum - s.place) size (s.place == 0))

/-- Reads the numbers to the end of the text. -/
def Decoder.run (s : Decoder) : List Char → Option (List Char)
  | [] => if s.k = base then some s.label else none
  | c :: cs => (s.step c).bind (·.run cs)

/-- The text in front of the last hyphen, and the one behind it; a hyphen at the start is none. -/
def splitPlain (cs : List Char) : List Char × List Char :=
  let numbers := (cs.reverse.takeWhile (· ≠ '-')).reverse
  let front := cs.take (cs.length - numbers.length - 1)
  if numbers.length < cs.length ∧ ¬ front.isEmpty then (front, numbers) else ([], cs)

/-- The label that ASCII letters stand for. -/
def decode? (cs : List Char) : Option (List Char) :=
  let (front, numbers) := splitPlain cs
  (Decoder.start front firstPoint 0 firstBias).run numbers

end Teller.Domain.Punycode
