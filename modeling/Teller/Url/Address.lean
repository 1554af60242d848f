import Teller.Url.Error
import Teller.Url.Percent

/-!
# Numeric hosts

* `Ipv4.ofHost?`: a host that ends in a number is an IPv4 address, or nothing at all. One to four
  numbers, in decimal, octal or hexadecimal; the last one fills what is left of the 32 bits.
* `Ipv4.text`: four decimal numbers.
* `Ipv6.read?`: the eight pieces of an IPv6 address.
* `Ipv6.text`: the pieces, the first longest run of two or more zeros left out.
-/

namespace Teller.Url

open Text (hexValue?)

namespace Ipv4

/-- The digits of a number in some base, as a number. -/
def digitsIn? (base : Nat) (cs : List Char) : Option Nat :=
  cs.foldl (fun acc c => do
    let n ← acc
    let d ← hexValue? c
    if d < base then some (n * base + d) else none) (some 0)

/-- A number of an address: `0x` starts a hexadecimal one and `0` an octal one; a lone prefix is
zero. -/
def number? (cs : List Char) : Option Nat :=
  match cs with
  | [] => none
  | '0' :: 'x' :: r | '0' :: 'X' :: r => digitsIn? 16 r
  | '0' :: d :: r => digitsIn? 8 (d :: r)
  | cs => digitsIn? 10 cs

/-- The parts of a host between its dots, a final empty one left out. -/
def parts (host : List Char) : List (List Char) :=
  let ps := host.splitOn '.'
  if 1 < ps.length ∧ ps.getLast? = some [] then ps.dropLast else ps

/-- The last part of a host is a number. -/
def endsInNumber (host : List Char) : Bool :=
  match (parts host).getLast? with
  | some last => (!last.isEmpty && last.all Char.isDigit) || (number? last).isSome
  | none => false

/-- How many numbers there are of the given count of octets. -/
def room (octets : Nat) : Nat := Nat.pow 256 octets

/-- The address that the numbers of a host give: an octet each, but for the last, which fills the
rest. -/
def ofNumbers? (ns : List Nat) : Option Nat :=
  match ns.getLast? with
  | none => none
  | some last =>
    let front := ns.dropLast
    if 4 < ns.length then none
    else if room (4 - front.length) ≤ last then none
    else if front.any (255 < ·) then none
    else some (front.foldl (fun acc n => acc * 256 + n) 0 * room (4 - front.length) + last)

/-- The address of a host that ends in a number. -/
def ofHost? (host : List Char) : Option Nat := ((parts host).mapM number?).bind ofNumbers?

/-- Four decimal numbers. -/
def text (n : Nat) : List Char :=
  ['.'].intercalate ([n / 0x1000000 % 256, n / 0x10000 % 256, n / 0x100 % 256, n % 256].map
    (Nat.toDigits 10))

end Ipv4

namespace Ipv6

/-- One to four hexadecimal digits at the start, and the rest. -/
def piece (cs : List Char) : Nat × List Char :=
  let digits := (cs.take 4).takeWhile (fun c => (hexValue? c).isSome)
  (digits.foldl (fun n c => n * 16 + (hexValue? c).getD 0) 0, cs.drop digits.length)

/-- A decimal number up to 255 without leading zeros, and the rest. -/
def decimal? (cs : List Char) : Option (Nat × List Char) :=
  let digits := cs.takeWhile Char.isDigit
  let n := digits.foldl (fun n c => n * 10 + (hexValue? c).getD 0) 0
  if digits.isEmpty ∨ (digits.head? = some '0' ∧ 1 < digits.length) ∨ 3 < digits.length ∨ 255 < n
  then none
  else some (n, cs.drop digits.length)

/-- The last four octets of an address, in decimal, as two pieces. -/
def tail? (cs : List Char) : Option (List Nat) := do
  let (a, r) ← decimal? cs
  let '.' :: r := r | none
  let (b, r) ← decimal? r
  let '.' :: r := r | none
  let (c, r) ← decimal? r
  let '.' :: r := r | none
  let (d, []) ← decimal? r | none
  return [a * 256 + b, c * 256 + d]

/-- The pieces from some place on: those before the gap of zeros, and those behind it if there is
one. `before` holds the pieces read so far in reverse. -/
def pieces? (fuel : Nat) (gap : Option (List Nat)) (before : List Nat) (cs : List Char) :
    Option (List Nat × Option (List Nat)) :=
  let finish (last : List Nat) : Option (List Nat × Option (List Nat)) :=
    match gap with
    | none => some (before.reverse ++ last, none)
    | some front => some (front, some (before.reverse ++ last))
  match fuel, cs with
  | 0, _ => none
  | _, [] => finish []
  | fuel + 1, ':' :: r => if gap.isSome then none else pieces? fuel (some before.reverse) [] r
  | fuel + 1, cs =>
    let (n, r) := piece cs
    match r with
    | '.' :: _ =>
      if r.length = cs.length then none
      else (tail? cs).bind finish
    | ':' :: r' =>
      if r.length = cs.length ∨ r'.isEmpty then none else pieces? fuel gap (n :: before) r'
    | [] => finish [n]
    | _ => none

/-- The eight pieces of an address. A colon at the start must be one of two. -/
def read? (cs : List Char) : Option (List Nat) := do
  let cs ←
    match cs with
    | ':' :: ':' :: r => some (':' :: r)
    | ':' :: _ => none
    | cs => some cs
  match ← pieces? (cs.length + 1) none [] cs with
  | (front, none) => if front.length = 8 then some front else none
  | (front, some back) =>
    if front.length + back.length < 8 then
      some (front ++ List.replicate (8 - front.length - back.length) 0 ++ back)
    else none

/-- The first longest run of zeros: where it starts and how long it is. -/
def zeroRun (index : Nat) (best : Nat × Nat) : List Nat → Nat × Nat
  | [] => best
  | n :: ns =>
    let run := ((n :: ns).takeWhile (· == 0)).length
    zeroRun (index + 1) (if best.2 < run then (index, run) else best) ns

/-- Pieces in hexadecimal, with colons between them. -/
def join (ps : List Nat) : List Char := [':'].intercalate (ps.map (Nat.toDigits 16))

/-- The text of an address. -/
def text (ps : List Nat) : List Char :=
  let (start, length) := zeroRun 0 (0, 1) ps
  if 2 ≤ length then join (ps.take start) ++ [':', ':'] ++ join (ps.drop (start + length))
  else join ps

end Ipv6

end Teller.Url
