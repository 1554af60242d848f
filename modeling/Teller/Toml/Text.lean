import Teller.Text.Hex

/-!
# TOML strings

* `readBasic`: a string between double quotes, with escapes.
* `readLiteral`: a string between single quotes, as it stands.
* `readString`: either of them, on one line or on several.

Readers give what they read and the text behind it, or nothing.
-/

namespace Teller.Toml

open Text (hexValue?)

/-- A blank inside a line. -/
def isBlank (c : Char) : Bool := c == ' ' || c == '\t'

/-- A character that a line of a string or a comment may have. -/
def isPrintable (c : Char) : Bool := c == '\t' || (0x20 ≤ c.toNat && c.toNat != 0x7F)

/-- The single quote. -/
def apostrophe : Char := Char.ofNat 0x27

/-- Adds a character in front of what is read. -/
def push (c : Char) : Option (List Char × List Char) → Option (List Char × List Char) :=
  Option.map fun (cs, rest) => (c :: cs, rest)

/-- Three quotes end a string of several lines; one or two more in front of them belong to it. -/
def closing (quote : Char) : List Char → List Char × List Char
  | a :: b :: r =>
    if a = quote then if b = quote then ([a, b], r) else ([a], b :: r) else ([], a :: b :: r)
  | [a] => if a = quote then ([a], []) else ([], [a])
  | [] => ([], [])

/-- Where a reader of a string stands. -/
inductive Mode where
  /-- In the text; behind a folded line end the blanks and line ends that follow are left out. -/
  | plain (folded : Bool)
  /-- Behind a backslash. -/
  | escaped
  /-- In the number of a character, of which so many digits are still owed. -/
  | number (owed value : Nat)
  /-- Behind a backslash and blanks; a line end must come. -/
  | folding

/-- The character of an escape of one letter. -/
def shortEscape? : Char → Option Char
  | 'b' => some '\x08'
  | 't' => some '\t'
  | 'n' => some '\n'
  | 'f' => some '\x0c'
  | 'r' => some '\r'
  | '"' => some '"'
  | '\\' => some '\\'
  | _ => none

/-- Reads a string with escapes from behind its opening quotes. -/
def readBasic (lines : Bool) : Mode → List Char → Option (List Char × List Char)
  | _, [] => none
  | .plain folded, c :: r =>
    if c = '"' then
      if lines then
        match r with
        | '"' :: '"' :: r' => some (closing '"' r')
        | _ => push c (readBasic lines (.plain false) r)
      else some ([], r)
    else if c = '\\' then readBasic lines .escaped r
    else if lines && c == '\n' then
      if folded then readBasic lines (.plain true) r
      else push c (readBasic lines (.plain false) r)
    else if lines && c == '\r' then
      match r with
      | '\n' :: r' =>
        if folded then readBasic lines (.plain true) r'
        else push '\n' (readBasic lines (.plain false) r')
      | _ => none
    else if folded && isBlank c then readBasic lines (.plain true) r
    else if isPrintable c then push c (readBasic lines (.plain false) r)
    else none
  | .escaped, c :: r =>
    match shortEscape? c with
    | some x => push x (readBasic lines (.plain false) r)
    | none =>
      if c = 'u' then readBasic lines (.number 4 0) r
      else if c = 'U' then readBasic lines (.number 8 0) r
      else if lines && isBlank c then readBasic lines .folding r
      else if lines && c == '\n' then readBasic lines (.plain true) r
      else if lines && c == '\r' then
        match r with
        | '\n' :: r' => readBasic lines (.plain true) r'
        | _ => none
      else none
  | .number owed value, c :: r =>
    match hexValue? c with
    | none => none
    | some d =>
      let n := value * 16 + d
      if 1 < owed then readBasic lines (.number (owed - 1) n) r
      else if n.isValidChar then push (Char.ofNat n) (readBasic lines (.plain false) r)
      else none
  | .folding, c :: r =>
    if isBlank c then readBasic lines .folding r
    else if c = '\n' then readBasic lines (.plain true) r
    else if c = '\r' then
      match r with
      | '\n' :: r' => readBasic lines (.plain true) r'
      | _ => none
    else none

/-- Reads a string without escapes from behind its opening quotes. -/
def readLiteral (lines : Bool) : List Char → Option (List Char × List Char)
  | [] => none
  | c :: r =>
    if c = apostrophe then
      if lines then
        match r with
        | a :: b :: r' =>
          if a = apostrophe ∧ b = apostrophe then some (closing apostrophe r')
          else push c (readLiteral lines (a :: b :: r'))
        | _ => none
      else some ([], r)
    else if lines && c == '\n' then push c (readLiteral lines r)
    else if lines && c == '\r' then
      match r with
      | '\n' :: r' => push '\n' (readLiteral lines r')
      | _ => none
    else if isPrintable c then push c (readLiteral lines r)
    else none

/-- The text behind a line end, if it starts with one. -/
def dropLineEnd : List Char → List Char
  | '\n' :: r => r
  | '\r' :: '\n' :: r => r
  | s => s

/-- Reads a string on one line, from its quote on. -/
def readLine : List Char → Option (List Char × List Char)
  | [] => none
  | c :: r =>
    if c = '"' then readBasic false (.plain false) r
    else if c = apostrophe then readLiteral false r
    else none

/-- Reads a string from its first quote on. A line end behind three quotes does not count. -/
def readString : List Char → Option (List Char × List Char)
  | a :: b :: c :: r =>
    if a = '"' ∧ b = '"' ∧ c = '"' then readBasic true (.plain false) (dropLineEnd r)
    else if a = apostrophe ∧ b = apostrophe ∧ c = apostrophe then readLiteral true (dropLineEnd r)
    else readLine (a :: b :: c :: r)
  | s => readLine s

end Teller.Toml
