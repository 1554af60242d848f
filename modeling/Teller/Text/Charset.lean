import Teller.Text.Utf8

/-!
# Character sets

* `Charset`: how octets stand for text; `Charset.ofLabel?`: by the label that names it.
* `Charset.text`: the text of any octets; `Charset.markedText?`: of octets behind a byte order mark.

There are more of them, by far. What they make of octets is not said here.
-/

namespace Teller.Text

/-- How octets stand for text. -/
inductive Charset where
  | utf8
  | utf16 (bigEndian : Bool)
  | windows1252
deriving DecidableEq, Repr

namespace Charset

/-- The labels of UTF-8. -/
def plainLabels : List String :=
  ["unicode-1-1-utf-8", "unicode11utf8", "unicode20utf8", "utf-8", "utf8", "x-unicode20utf8"]

/-- The labels of the western character set, ASCII and Latin 1 among them. -/
def westernLabels : List String :=
  ["ansi_x3.4-1968", "ascii", "cp1252", "cp819", "csisolatin1", "ibm819", "iso-8859-1",
    "iso-ir-100", "iso8859-1", "iso88591", "iso_8859-1", "iso_8859-1:1987", "l1", "latin1",
    "us-ascii", "windows-1252", "x-cp1252"]

/-- The labels of UTF-16 whose less significant octets come first. -/
def littleLabels : List String :=
  ["csunicode", "iso-10646-ucs-2", "ucs-2", "unicode", "unicodefeff", "utf-16", "utf-16le"]

/-- The labels of UTF-16 whose more significant octets come first. -/
def bigLabels : List String := ["unicodefffe", "utf-16be"]

/-- A blank that may stand around a label. -/
def isLabelBlank (c : Char) : Bool := c.toNat ∈ [0x09, 0x0A, 0x0C, 0x0D, 0x20]

/-- The character set of a label, unless it is another than these. Case does not matter, nor do
blanks around it. -/
def ofLabel? (label : List Char) : Option Charset :=
  let inner := ((label.dropWhile isLabelBlank).reverse.dropWhile isLabelBlank).reverse
  let l := String.ofList (inner.map Char.toLower)
  if l ∈ plainLabels then some .utf8
  else if l ∈ westernLabels then some .windows1252
  else if l ∈ littleLabels then some (.utf16 false)
  else if l ∈ bigLabels then some (.utf16 true)
  else none

/-- What Windows-1252 has in the place of the control characters from 0x80 on. -/
def westernExtras : List Nat :=
  [0x20AC, 0x81, 0x201A, 0x192, 0x201E, 0x2026, 0x2020, 0x2021, 0x2C6, 0x2030, 0x160, 0x2039,
    0x152, 0x8D, 0x17D, 0x8F, 0x90, 0x2018, 0x2019, 0x201C, 0x201D, 0x2022, 0x2013, 0x2014, 0x2DC,
    0x2122, 0x161, 0x203A, 0x153, 0x9D, 0x17E, 0x178]

/-- The character of an octet in Windows-1252. -/
def western (b : UInt8) : Char :=
  if 0x80 ≤ b && b < 0xA0 then Char.ofNat (westernExtras.getD (b.toNat - 0x80) 0)
  else Char.ofNat b.toNat

/-- The units of UTF-16; an octet that is left over is no unit. -/
def units (bigEndian : Bool) : List UInt8 → List (Option Nat)
  | [] => []
  | [_] => [none]
  | a :: b :: r =>
    some (if bigEndian then a.toNat * 256 + b.toNat else b.toNat * 256 + a.toNat) ::
      units bigEndian r

/-- The characters of units: a leading and a trailing surrogate make one, and a surrogate that
stands alone is replaced, together with an octet that is left over behind it. -/
def ofUnits : List (Option Nat) → List Char
  | [] => []
  | none :: r => '\uFFFD' :: ofUnits r
  | some n :: r =>
    if 0xD800 ≤ n ∧ n ≤ 0xDBFF then
      match r with
      | some m :: r' =>
        if 0xDC00 ≤ m ∧ m ≤ 0xDFFF then
          Char.ofNat ((n - 0xD800) * 0x400 + (m - 0xDC00) + 0x10000) :: ofUnits r'
        else '\uFFFD' :: ofUnits (some m :: r')
      | none :: r' => '\uFFFD' :: ofUnits r'
      | [] => ['\uFFFD']
    else if 0xDC00 ≤ n ∧ n ≤ 0xDFFF then '\uFFFD' :: ofUnits r
    else Char.ofNat n :: ofUnits r

/-- The characters of octets in a character set. -/
def read : Charset → List UInt8 → List Char
  | .utf8, bs => Utf8.decodeLossy bs
  | .utf16 bigEndian, bs => ofUnits (units bigEndian bs)
  | .windows1252, bs => bs.map western

/-- **The text of any octets** in a character set. -/
def text (c : Charset) (bs : List UInt8) : String := String.ofList (c.read bs)

/-- **The text of octets behind a byte order mark**, which is dropped; `none` if there is none. -/
def markedText? : List UInt8 → Option String
  | 0xEF :: 0xBB :: 0xBF :: r => some (text .utf8 r)
  | 0xFE :: 0xFF :: r => some (text (.utf16 true) r)
  | 0xFF :: 0xFE :: r => some (text (.utf16 false) r)
  | _ => none

end Charset

end Teller.Text
