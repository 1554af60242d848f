/-!
# UTF-8

Texts as octets and back.

* `Utf8.encode`: the octets of a text.
* `Utf8.next`: reads one character, or the longest run of octets that starts a character and is
  then broken off.
* `Utf8.decode?`: the text of well-formed octets; `Utf8.decodeLossy`: any octets, with U+FFFD for
  every broken run.
-/

namespace Teller.Text.Utf8

/-- The octets of a text. -/
def encode (cs : List Char) : List UInt8 := cs.flatMap String.utf8EncodeChar

/-- The number of octets of a text. -/
def size (cs : List Char) : Nat := cs.foldr (fun c n => c.utf8Size + n) 0

/-- What a first octet announces: the octets still owed, the range of the next of them, and the
bits that the first octet gives. -/
structure Lead where
  owed : Nat
  low : UInt8
  high : UInt8
  bits : Nat

/-- The octets that may start a character of several octets. -/
def Lead.of? (b : UInt8) : Option Lead :=
  let n := b.toNat
  if 0xC2 ≤ n && n ≤ 0xDF then some ⟨1, 0x80, 0xBF, n - 0xC0⟩
  else if n == 0xE0 then some ⟨2, 0xA0, 0xBF, 0⟩
  else if n == 0xED then some ⟨2, 0x80, 0x9F, 0xD⟩
  else if 0xE1 ≤ n && n ≤ 0xEF then some ⟨2, 0x80, 0xBF, n - 0xE0⟩
  else if n == 0xF0 then some ⟨3, 0x90, 0xBF, 0⟩
  else if 0xF1 ≤ n && n ≤ 0xF3 then some ⟨3, 0x80, 0xBF, n - 0xF0⟩
  else if n == 0xF4 then some ⟨3, 0x80, 0x8F, 4⟩
  else none

/-- Takes the owed octets; `none` where one of them is missing. The rest is never longer than the
input. -/
def follow : Nat → UInt8 → UInt8 → Nat → List UInt8 → Option Char × List UInt8
  | 0, _, _, acc, bs => (some (Char.ofNat acc), bs)
  | _ + 1, _, _, _, [] => (none, [])
  | n + 1, low, high, acc, b :: bs =>
    if low ≤ b && b ≤ high then follow n 0x80 0xBF (acc * 64 + (b.toNat - 0x80)) bs
    else (none, b :: bs)

theorem length_follow (n : Nat) (low high : UInt8) (acc : Nat) (bs : List UInt8) :
    (follow n low high acc bs).2.length ≤ bs.length := by
  induction n generalizing low high acc bs with
  | zero => simp [follow]
  | succ n ih =>
    cases bs with
    | nil => simp [follow]
    | cons b bs =>
      simp only [follow]
      split
      · exact Nat.le_trans (ih ..) (by simp)
      · simp

/-- One character after the first octet `b`, or `none` for a broken run, with the octets behind. -/
def next (b : UInt8) (bs : List UInt8) : Option Char × List UInt8 :=
  if b < 0x80 then (some (Char.ofNat b.toNat), bs)
  else match Lead.of? b with
    | some l => follow l.owed l.low l.high l.bits bs
    | none => (none, bs)

theorem length_next (b : UInt8) (bs : List UInt8) : (next b bs).2.length ≤ bs.length := by
  unfold next
  split
  · simp
  · split
    · exact length_follow ..
    · simp

/-- The characters of a run of octets, `none` for each broken part. -/
def runs : List UInt8 → List (Option Char)
  | [] => []
  | b :: bs => (next b bs).1 :: runs (next b bs).2
termination_by bs => bs.length
decreasing_by simpa using Nat.lt_succ_of_le (length_next b bs)

/-- The text of well-formed octets. -/
def decode? (bs : List UInt8) : Option (List Char) := (runs bs).mapM id

/-- The text of any octets: a broken run reads as the replacement character. -/
def decodeLossy (bs : List UInt8) : List Char := (runs bs).map (·.getD '\uFFFD')

end Teller.Text.Utf8
