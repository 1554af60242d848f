import Teller.Proofs.Json.Spelling

/-!
# JSON texts

What a JSON text is, as a grammar, without regard to how texts are read. A text stands for a
document: what is left of it without space and without the ways to write one string or number.

* `Part`, `charsOf?`: strings as characters and 16-bit units, and the characters they stand for.
* `Lexeme`: numbers as their digits; `Lexeme.int?`: the integer that a number is.
* `Doc`: documents.
* `WritesParts`, `WritesNumber`, `Writes`: the texts of strings, numbers and documents.
* `IsText`: a whole text of a document.
* `Writes.plain`, `WritesMembers.plain`: texts and names without escapes.
* `writesParts_escaped`, `Writes.escaped`: any string, with its escapes.
-/

namespace Teller.Json

/-! ## Documents -/

/-- A part of a string: a character, or the number of a 16-bit unit. -/
inductive Part where
  | char (c : Char)
  | unit (n : Nat)

/-- The characters that parts stand for, if no surrogate among them stands alone. -/
def charsOf? : List Part → Option (List Char)
  | [] => some []
  | .char c :: ps => (c :: ·) <$> charsOf? ps
  | .unit n :: ps =>
    if 0xDC00 ≤ n && n ≤ 0xDFFF then none
    else if 0xD800 ≤ n && n ≤ 0xDBFF then
      match ps with
      | .unit m :: ps' =>
        if 0xDC00 ≤ m && m ≤ 0xDFFF then
          (Char.ofNat ((n - 0xD800) * 0x400 + (m - 0xDC00) + 0x10000) :: ·) <$> charsOf? ps'
        else none
      | _ => none
    else (Char.ofNat n :: ·) <$> charsOf? ps

/-- The text that parts stand for. -/
def textOf? (ps : List Part) : Option String := String.ofList <$> charsOf? ps

/-- A number: its sign, its digits, those behind the point, and its exponent with the sign. -/
structure Lexeme where
  negative : Bool
  whole : List Char
  fraction : Option (List Char)
  exponent : Option (Bool × List Char)
deriving DecidableEq, Repr

namespace Lexeme

/-- The integer that a number without point and exponent is. -/
def int? (n : Lexeme) : Option Int :=
  if n.fraction = none ∧ n.exponent = none then
    some (if n.negative then -Nat.ofDigitChars 10 n.whole 0 else Nat.ofDigitChars 10 n.whole 0)
  else none

/-- A zero with a sign. -/
def MinusZero (n : Lexeme) : Prop := n.negative = true ∧ n.int? = some 0

end Lexeme

/-- **A document.** A string in which a surrogate stands alone has no text. -/
inductive Doc where
  | null
  | flag (b : Bool)
  | number (n : Lexeme)
  | text (s : Option String)
  | array (items : List Doc)
  | object (members : List (Option String × Doc))

/-! ## Strings -/

/-- A text of parts, up to the quote that ends their string. -/
inductive WritesParts : List Part → List Char → Prop
  | close : WritesParts [] ['"']
  /-- A character stands for itself unless it is a control character or has a meaning. -/
  | plain {c ps cs} (hq : c ≠ '"') (hb : c ≠ '\\') (hc : ¬ c.toNat < 0x20)
      (h : WritesParts ps cs) : WritesParts (.char c :: ps) (c :: cs)
  | short {x c ps cs} (hx : shortEscape? x = some c) (h : WritesParts ps cs) :
      WritesParts (.char c :: ps) ('\\' :: x :: cs)
  | unit {x y z w n ps cs} (hn : hexUnit? x y z w = some n) (h : WritesParts ps cs) :
      WritesParts (.unit n :: ps) ('\\' :: 'u' :: x :: y :: z :: w :: cs)

/-! ## Numbers -/

/-- Digits, at least one. -/
def Digits (ds : List Char) : Prop := ds ≠ [] ∧ ∀ d ∈ ds, d.isDigit = true

/-- A text of what stands behind a point. -/
inductive WritesFraction : Option (List Char) → List Char → Prop
  | none : WritesFraction none []
  | some {ds} (h : Digits ds) : WritesFraction (some ds) ('.' :: ds)

/-- The sign of an exponent. A plus sign may be left out. -/
def SignOf (down : Bool) (sign : List Char) : Prop :=
  (sign = [] ∨ sign = ['+']) ∧ down = false ∨ sign = ['-'] ∧ down = true

/-- A text of an exponent. -/
inductive WritesExponent : Option (Bool × List Char) → List Char → Prop
  | none : WritesExponent none []
  | some {e sign down ds} (he : e = 'e' ∨ e = 'E') (hs : SignOf down sign) (h : Digits ds) :
      WritesExponent (some (down, ds)) (e :: (sign ++ ds))

/-- **A text of a number.** Only a lone zero begins with one. -/
structure WritesNumber (n : Lexeme) (cs : List Char) : Prop where
  digits : Digits n.whole
  leading : n.whole.head? = some '0' → n.whole = ['0']
  parts : ∃ fraction exponent, WritesFraction n.fraction fraction ∧
    WritesExponent n.exponent exponent ∧
    cs = (if n.negative then ['-'] else []) ++ (n.whole ++ (fraction ++ exponent))

/-! ## Texts -/

/-- A mark between space. -/
def Around (mark : Char) (cs : List Char) : Prop :=
  ∃ gap gap', Space gap ∧ Space gap' ∧ cs = gap ++ mark :: gap'

/-- What stands in front of an element or a member; `first` tells that none came before. -/
def Leads (first : Bool) (cs : List Char) : Prop := if first then Space cs else Around ',' cs

mutual

/-- **A text of a document.** -/
inductive Writes : Doc → List Char → Prop
  | null : Writes .null ['n', 'u', 'l', 'l']
  | true : Writes (.flag true) ['t', 'r', 'u', 'e']
  | false : Writes (.flag false) ['f', 'a', 'l', 's', 'e']
  | number {n cs} (h : WritesNumber n cs) : Writes (.number n) cs
  | text {ps cs} (h : WritesParts ps cs) : Writes (.text (textOf? ps)) ('"' :: cs)
  | array {docs cs} (h : WritesItems Bool.true docs cs) : Writes (.array docs) ('[' :: cs)
  | object {members cs} (h : WritesMembers Bool.true members cs) :
      Writes (.object members) ('\x7b' :: cs)

/-- A text of elements up to the end of their array. -/
inductive WritesItems : Bool → List Doc → List Char → Prop
  | close {first gap} (hg : Space gap) : WritesItems first [] (gap ++ [']'])
  | item {first lead d cs ds cs'} (hl : Leads first lead) (h : Writes d cs)
      (hs : WritesItems false ds cs') : WritesItems first (d :: ds) (lead ++ (cs ++ cs'))

/-- A text of members up to the end of their object. -/
inductive WritesMembers : Bool → List (Option String × Doc) → List Char → Prop
  | close {first gap} (hg : Space gap) : WritesMembers first [] (gap ++ ['\x7d'])
  | member {first lead ps name colon d cs ms cs'} (hl : Leads first lead)
      (hn : WritesParts ps name) (hc : Around ':' colon) (h : Writes d cs)
      (hs : WritesMembers false ms cs') :
      WritesMembers first ((textOf? ps, d) :: ms)
        (lead ++ '"' :: (name ++ (colon ++ (cs ++ cs'))))

end

/-- **A whole text of a document**, with space around it. -/
def IsText (d : Doc) (text : String) : Prop :=
  ∃ gap cs gap', Space gap ∧ Writes d cs ∧ Space gap' ∧ text.toList = gap ++ (cs ++ gap')

/-! ## Texts without escapes -/

/-- A character that stands for itself in a string. -/
def isPlain (c : Char) : Bool := c ≠ '"' ∧ c ≠ '\\' ∧ ¬ c.toNat < 0x20

theorem charsOf?_map_char (cs : List Char) : charsOf? (cs.map .char) = some cs := by
  induction cs with
  | nil => rfl
  | cons c cs ih => rw [List.map_cons, charsOf?, ih]; rfl

theorem textOf?_map_char (s : String) : textOf? (s.toList.map .char) = some s := by
  rw [textOf?, charsOf?_map_char]
  exact congrArg some String.ofList_toList

theorem writesParts_map_char {cs : List Char} (h : cs.all isPlain) :
    WritesParts (cs.map .char) (cs ++ ['"']) := by
  induction cs with
  | nil => exact .close
  | cons c cs ih =>
    rw [List.all_cons, Bool.and_eq_true] at h
    obtain ⟨hquote, hbackslash, hcontrol⟩ := of_decide_eq_true h.1
    exact .plain hquote hbackslash hcontrol (ih h.2)

/-- A text without escapes is written as it is. -/
theorem Writes.plain (s : String) (h : s.toList.all isPlain) :
    Writes (.text (some s)) ('"' :: (s.toList ++ ['"'])) := by
  rw [← textOf?_map_char]
  exact .text (writesParts_map_char h)

theorem leads_nil : Leads true [] := space_nil

theorem leads_comma : Leads false [','] := ⟨[], [], space_nil, space_nil, rfl⟩

/-- So is the name of a member. -/
theorem WritesMembers.plain {first : Bool} {lead : List Char} {d : Doc} {cs : List Char}
    {ms : List (Option String × Doc)} {cs' : List Char} (name : String) (hl : Leads first lead)
    (hn : name.toList.all isPlain) (h : Writes d cs) (hs : WritesMembers false ms cs') :
    WritesMembers first ((some name, d) :: ms)
      (lead ++ '"' :: (name.toList ++ ['"'] ++ ([':'] ++ (cs ++ cs')))) := by
  rw [← textOf?_map_char name]
  exact .member hl (writesParts_map_char hn) ⟨[], [], space_nil, space_nil, rfl⟩ h hs

/-! ## Texts with escapes -/

theorem exists_writesParts_escape (cs : List Char) :
    ∃ ps, WritesParts ps (cs.flatMap escape ++ ['"']) ∧ charsOf? ps = some cs := by
  induction cs with
  | nil => exact ⟨[], .close, rfl⟩
  | cons c cs ih =>
    obtain ⟨ps, hps, hchars⟩ := ih
    have hchar : charsOf? (.char c :: ps) = some (c :: cs) := by
      rw [charsOf?, hchars]
      rfl
    rw [List.flatMap_cons, List.append_assoc]
    -- A character without a letter to escape it is a control character, far from surrogates.
    rcases escape_cases c with ⟨x, hescape, -, hx⟩ | ⟨hcontrol, hescape⟩ |
      ⟨hescape, hquote, hbackslash, hcontrol⟩
    · rw [hescape]
      exact ⟨_, .short hx hps, hchar⟩
    · rw [hescape]
      refine ⟨_, .unit (hexUnit?_lowerHex ⟨c.toNat, hcontrol⟩) hps, ?_⟩
      have hlow : ¬ (0xDC00 ≤ c.toNat && c.toNat ≤ 0xDFFF) = true := by simp; omega
      have hhigh : ¬ (0xD800 ≤ c.toNat && c.toNat ≤ 0xDBFF) = true := by simp; omega
      rw [charsOf?.eq_def]
      dsimp only
      rw [if_neg hlow, if_neg hhigh, hchars, Char.ofNat_toNat]
      rfl
    · rw [hescape]
      exact ⟨_, .plain hquote hbackslash hcontrol hps, hchar⟩

/-- **Any string can be written**, with its escapes. -/
theorem writesParts_escaped (s : String) :
    ∃ ps, WritesParts ps (s.toList.flatMap escape ++ ['"']) ∧ textOf? ps = some s := by
  obtain ⟨ps, hps, hchars⟩ := exists_writesParts_escape s.toList
  refine ⟨ps, hps, ?_⟩
  rw [textOf?, hchars]
  exact congrArg some String.ofList_toList

theorem Writes.escaped (s : String) : Writes (.text (some s)) (writeText s) := by
  obtain ⟨ps, hps, htext⟩ := writesParts_escaped s
  rw [← htext]
  exact .text hps

/-- A string is written as a text of it. -/
theorem isText_compact_text (s : String) : IsText (.text (some s)) (Value.text s).compact := by
  refine ⟨[], _, [], space_nil, .escaped s, space_nil, ?_⟩
  rw [List.nil_append, List.append_nil]
  exact String.toList_ofList

end Teller.Json
