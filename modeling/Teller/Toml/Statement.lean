import Teller.Toml.Item
import Teller.Toml.Number
import Teller.Toml.Text

/-!
# TOML statements

A document is a list of statements: names with values, and headers that say which table the names
behind them belong to.

* `readPath`: a name, or several with dots between them.
* `readItem`: a value.
* `Statement`: a line of a document; `Statement.readAll`: all of them.

Readers give what they read and the text behind it, or nothing.
-/

namespace Teller.Toml

/-- The text behind the blanks of a line. -/
def skipBlanks (s : List Char) : List Char := s.dropWhile isBlank

/-- The text behind a comment, if there is one. -/
def skipComment : List Char → List Char
  | '#' :: r => r.dropWhile isPrintable
  | s => s

/-- The text behind the end of a line. -/
def readLineEnd : List Char → Option (List Char)
  | [] => some []
  | '\n' :: r => some r
  | '\r' :: '\n' :: r => some r
  | _ => none

/-- The text behind the rest of a line that says nothing more. -/
def readRest (s : List Char) : Option (List Char) := readLineEnd (skipComment (skipBlanks s))

/-- The text behind blanks, line ends and comments. -/
def skipGap (comment : Bool) : List Char → List Char
  | [] => []
  | c :: r =>
    if comment && isPrintable c then skipGap true r
    else if isBlank c || c == '\n' then skipGap false r
    else if c = '\r' then
      match r with
      | '\n' :: r' => skipGap false r'
      | _ => c :: r
    else if c = '#' then skipGap true r
    else c :: r

/-- A character of a name without quotes. -/
def isNameChar (c : Char) : Bool := c.isAlphanum || c == '-' || c == '_'

/-- Reads a name. -/
def readKey (s : List Char) : Option (Key × List Char) :=
  match s with
  | [] => none
  | c :: _ =>
    if c = '"' ∨ c = apostrophe then
      (readLine s).map fun (cs, r) => (⟨String.ofList cs, ⟨s, r⟩⟩, r)
    else
      let name := s.takeWhile isNameChar
      let r := s.dropWhile isNameChar
      if name.isEmpty then none else some (⟨String.ofList name, ⟨s, r⟩⟩, r)

/-- Reads names with dots between them, no more than a number of them. -/
def readPathUpTo : Nat → List Char → Option (List Key × List Char)
  | 0, _ => none
  | n + 1, s => do
    let (key, r) ← readKey (skipBlanks s)
    match skipBlanks r with
    | '.' :: r' =>
      let (keys, r'') ← readPathUpTo n r'
      return (key :: keys, r'')
    | r' => return ([key], r')

/-- The number of levels that tables and arrays can be nested, and one more. -/
def levelLimit : Nat := 80

/-- The names in front of the last one of a path, and the last one. -/
structure Path where
  front : List Key
  last : Key

/-- The path of some names, one at least. -/
def Path.ofKeys : List Key → Option Path
  | [] => none
  | [key] => some ⟨[], key⟩
  | key :: keys => (Path.ofKeys keys).map fun p => ⟨key :: p.front, p.last⟩

/-- Reads a path, and the blanks around it. -/
def readPath (s : List Char) : Option (Path × List Char) := do
  let (keys, r) ← readPathUpTo (levelLimit - 1) s
  return (← Path.ofKeys keys, r)

/-- Acts on the entries at a path, with how their table came about. Tables that are missing on the
way are made; with `dotted` they are made by a name with dots, and tables with a header or braces
are closed to it. -/
def within {α : Type} (dotted : Bool) (act : Origin → Entries → Option (Entries × α)) :
    List Key → Origin → Entries → Option (Entries × α)
  | [], origin, entries => act origin entries
  | key :: keys, _, entries =>
    entries.alter key fun
      | none =>
        let origin := if dotted then .dotted else .implied
        (within dotted act keys origin .nil).map fun (e, a) => (.table origin none e, a)
      | some (.table origin span inner) =>
        if origin = .braces ∨ (dotted ∧ origin = .header) then none
        else (within dotted act keys origin inner).map fun (e, a) => (.table origin span e, a)
      | some (.tables span items) =>
        (items.alterLast fun
          | .table origin s inner =>
            (within dotted act keys origin inner).map fun (e, a) => (.table origin s e, a)
          | _ => none).map fun (i, a) => (.tables span i, a)
      | some _ => none

/-- Puts an item under a path into a table. The name must be new, and a table that names with dots
made takes no names from anywhere else. -/
def Entries.assign (path : Path) (item : Item) (origin : Origin) (entries : Entries) :
    Option Entries :=
  (within true
    (fun origin inner =>
      if (origin == .dotted) == path.front.isEmpty then none
      else inner.alter path.last fun
        | none => some (item, ())
        | some _ => none)
    path.front origin entries).map (·.1)

/-- Reads a word. -/
def readWord : List Char → List Char → Option (List Char)
  | [], s => some s
  | w :: ws, c :: s => if c = w then readWord ws s else none
  | _ :: _, [] => none

/-- Reads a number or a moment. -/
def readNumeral (s : List Char) : Option (Item × List Char) :=
  match readMoment s with
  | some r => some (.moment ⟨s, r⟩, r)
  | none =>
    match readFloat s with
    | some (x, r) => some (.float ⟨s, r⟩ x, r)
    | none => (readInteger s).map fun (n, r) => (.integer ⟨s, r⟩ n, r)

/-- Reads a value that is neither array nor table. -/
def readScalar (s : List Char) : Option (Item × List Char) :=
  match s with
  | [] => none
  | c :: _ =>
    if c = '"' ∨ c = apostrophe then
      (readString s).map fun (cs, r) => (.text ⟨s, r⟩ (String.ofList cs), r)
    else if c = 't' then (readWord "true".toList s).map fun r => (.flag ⟨s, r⟩ true, r)
    else if c = 'f' then (readWord "false".toList s).map fun r => (.flag ⟨s, r⟩ false, r)
    else readNumeral s

/-- Reads the elements of an array and the bracket behind them, given a reader of elements. -/
def readElements (read : List Char → Option (Item × List Char)) :
    Nat → List Char → Option (Items × List Char)
  | 0, _ => none
  | fuel + 1, s =>
    match skipGap false s with
    | ']' :: r => some (.nil, r)
    | s => do
      let (item, r) ← read s
      match skipGap false r with
      | ']' :: r' => return (.cons item .nil, r')
      | ',' :: r' =>
        let (items, r'') ← readElements read fuel r'
        return (.cons item items, r'')
      | _ => none

/-- Reads the entries of a table and the brace behind them, given a reader of values. -/
def readEntries (read : List Char → Option (Item × List Char)) (entries : Entries) :
    Nat → List Char → Option (Entries × List Char)
  | 0, _ => none
  | fuel + 1, s => do
    let (path, r) ← readPath s
    let (item, r) ← read (skipBlanks (← readChar '=' r))
    let entries ← entries.assign path item .braces
    match skipBlanks r with
    | [] => none
    | c :: r' =>
      if c = '\x7d' then return (entries, r')
      else if c = ',' then readEntries read entries fuel r'
      else none

/-- Reads the entries of a table from behind its opening brace. -/
def readBraces (read : List Char → Option (Item × List Char)) (s : List Char) :
    Option (Entries × List Char) :=
  match skipBlanks s with
  | [] => none
  | c :: r => if c = '\x7d' then some (.nil, r) else readEntries read .nil s.length s

/-- Reads a value, with arrays and tables nested in each other up to a number of levels. -/
def readItemUpTo : Nat → List Char → Option (Item × List Char)
  | levels, s =>
    match s with
    | [] => none
    | c :: r =>
      match levels with
      | 0 => if c = '[' ∨ c = '\x7b' then none else readScalar s
      | levels + 1 =>
        if c = '[' then
          (readElements (readItemUpTo levels) s.length r).map fun (items, r') =>
            (.array ⟨s, r'⟩ items, r')
        else if c = '\x7b' then
          (readBraces (readItemUpTo levels) r).map fun (entries, r') =>
            (.table .braces (some ⟨s, r'⟩) entries, r')
        else readScalar s

/-- Reads a value. -/
def readItem (s : List Char) : Option (Item × List Char) := readItemUpTo (levelLimit - 1) s

/-- A line of a document. -/
inductive Statement where
  /-- A name with its value, and the text behind the value. -/
  | assign (path : Path) (item : Item) (stop : List Char)
  /-- The header of a table, or with `array` the header of one more of several tables. -/
  | header (span : Span) (array : Bool) (path : Path)

namespace Statement

/-- Reads a header behind its opening brackets, which stand at `start`. -/
def readHeader (start : List Char) (array : Bool) (s : List Char) :
    Option (Statement × List Char) := do
  let (path, r) ← readPath s
  let r ← readChar ']' r
  let r ← if array then readChar ']' r else some r
  return (.header ⟨start, r⟩ array path, ← readRest r)

/-- Reads a name with its value. -/
def readAssign (s : List Char) : Option (Statement × List Char) := do
  let (path, r) ← readPath s
  let (item, r) ← readItem (skipBlanks (← readChar '=' r))
  return (.assign path item r, ← readRest r)

/-- Reads a statement. -/
def read (s : List Char) : Option (Statement × List Char) :=
  match s with
  | '[' :: '[' :: r => readHeader s true r
  | '[' :: r => readHeader s false r
  | _ => readAssign s

/-- Reads the statements of a text, line by line. -/
def readLines : Nat → List Char → Option (List Statement)
  | 0, _ => none
  | fuel + 1, s =>
    match skipBlanks s with
    | [] => some []
    | c :: r =>
      if c = '#' ∨ c = '\n' ∨ c = '\r' then (readRest (c :: r)).bind (readLines fuel)
      else do
        let (statement, r') ← read (c :: r)
        return statement :: (← readLines fuel r')

/-- Reads all statements of a text. A byte order mark may stand in front. -/
def readAll (s : List Char) : Option (List Statement) :=
  readLines (s.length + 1)
    (match s with
    | '\uFEFF' :: r => r
    | s => s)

end Statement

end Teller.Toml
