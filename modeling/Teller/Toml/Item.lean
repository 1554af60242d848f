/-!
# TOML items

What a TOML document holds, with the place of everything in the text.

* `Span`: a stretch of the text.
* `Item`, `Items`, `Entries`: values, elements of arrays, entries of tables.
* `Origin`: how a table came about, which decides what may still be added to it.
* `Entries.find?`, `Entries.erase`, `Entries.alter`: entries by name.
-/

namespace Teller.Toml

/-- A stretch of a text: the text from its start on, and the text behind its end. -/
structure Span where
  start : List Char
  stop : List Char
deriving DecidableEq, Repr

/-- A name where it stands. -/
structure Key where
  name : String
  span : Span
deriving DecidableEq, Repr

/-- How a table came about. -/
inductive Origin where
  /-- By a header of its own, or as the whole document. -/
  | header
  /-- By the header of a table inside it. -/
  | implied
  /-- By a name with dots. -/
  | dotted
  /-- By braces. -/
  | braces
deriving DecidableEq, Repr

mutual

/-- A value where it stands. -/
inductive Item where
  | text (span : Span) (s : String)
  | integer (span : Span) (n : Int)
  | float (span : Span) (x : Float)
  | flag (span : Span) (b : Bool)
  /-- A date, a time, or both. -/
  | moment (span : Span)
  | array (span : Span) (items : Items)
  /-- A table; it stands somewhere only if it has braces or a header. -/
  | table (origin : Origin) (span : Option Span) (entries : Entries)
  /-- Tables with a header of double brackets each. -/
  | tables (span : Option Span) (items : Items)

/-- The elements of an array. -/
inductive Items where
  | nil
  | cons (item : Item) (rest : Items)

/-- The entries of a table, in the order of the text. -/
inductive Entries where
  | nil
  | cons (key : Key) (item : Item) (rest : Entries)

end

/-- Where an item stands. -/
def Item.span? : Item → Option Span
  | .text span _ | .integer span _ | .float span _ | .flag span _ | .moment span
  | .array span _ => some span
  | .table _ span _ | .tables span _ => span

namespace Items

/-- An element behind the others. -/
def push (item : Item) : Items → Items
  | .nil => .cons item .nil
  | .cons first rest => .cons first (rest.push item)

/-- The elements as a list. -/
def toList : Items → List Item
  | .nil => []
  | .cons item rest => item :: rest.toList

/-- Changes the last element, if there is one and the change succeeds. -/
def alterLast {α : Type} (f : Item → Option (Item × α)) : Items → Option (Items × α)
  | .nil => none
  | .cons item .nil => (f item).map fun (i, a) => (.cons i .nil, a)
  | .cons item rest => (rest.alterLast f).map fun (r, a) => (.cons item r, a)

end Items

namespace Entries

/-- The item of a name. -/
def find? (name : String) : Entries → Option Item
  | .nil => none
  | .cons key item rest => if key.name = name then some item else rest.find? name

/-- Without the entry of a name. -/
def erase (name : String) : Entries → Entries
  | .nil => .nil
  | .cons key item rest => if key.name = name then rest else .cons key item (rest.erase name)

/-- The number of entries. -/
def length : Entries → Nat
  | .nil => 0
  | .cons _ _ rest => rest.length + 1

/-- Changes the item of a name, or adds one behind the others, if the change succeeds. -/
def alter {α : Type} (key : Key) (f : Option Item → Option (Item × α)) :
    Entries → Option (Entries × α)
  | .nil => (f none).map fun (i, a) => (.cons key i .nil, a)
  | .cons k item rest =>
    if k.name = key.name then (f (some item)).map fun (i, a) => (.cons k i rest, a)
    else (rest.alter key f).map fun (r, a) => (.cons k item r, a)

end Entries

end Teller.Toml
