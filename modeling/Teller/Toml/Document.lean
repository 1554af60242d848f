import Teller.Toml.Statement

/-!
# TOML documents

The statements of a document make one table. A header opens a table, which the names behind it go
into until the next header.

* `Draft`: the tables that are finished, and the one that is open.
* `Document.ofStatements?`: the table of a document, unless two statements contradict each other.
* `Document.read?`: the table of a text.
-/

namespace Teller.Toml

/-- The table that is open: the whole document in front of all headers, else that of a header. -/
structure OpenTable where
  header : Option (Span × Bool × Path)
  entries : Entries
  /-- The text behind the last value, or behind the header. -/
  stop : List Char

/-- Where the table of a header stands: from its header to its last value. -/
def OpenTable.span (t : OpenTable) : Option Span :=
  t.header.map fun (span, _) => ⟨span.start, t.stop⟩

/-- The tables of a document while its statements are read. -/
structure Draft where
  root : Entries
  table : OpenTable

namespace Draft

/-- In front of all statements. -/
def start : Draft := ⟨.nil, ⟨none, .nil, []⟩⟩

/-- Where several tables stand: from the first to the last. -/
def joinSpans (items : List Item) : Option Span := do
  let first ← (← items.head?).span?
  let last ← (← items.getLast?).span?
  return ⟨first.start, last.stop⟩

/-- The finished tables with the open one among them. -/
def close (d : Draft) : Option Entries :=
  match d.table.header with
  | none => some d.table.entries
  | some (_, array, path) =>
    let item := Item.table .header d.table.span d.table.entries
    (within false
      (fun _ entries =>
        entries.alter path.last fun old =>
          if array then
            match old with
            | none => some (.tables d.table.span (.cons item .nil), ())
            | some (.tables _ items) =>
              let items := items.push item
              some (.tables (joinSpans items.toList) items, ())
            | some _ => none
          else
            match old with
            | none => some (item, ())
            | some _ => none)
      path.front .header d.root).map (·.1)

/-- Takes the table that a header names out of its parent, with the entries that it already has. A
table that is not implied by others may not be there yet. -/
def take (path : Path) (root : Entries) : Option (Entries × Entries) :=
  within false
    (fun _ entries =>
      match entries.find? path.last.name with
      | none => some (entries, .nil)
      | some (.table .implied _ inner) => some (entries.erase path.last.name, inner)
      | some _ => none)
    path.front .header root

/-- Makes sure that a header of one more table finds such tables, or none at all. -/
def check (path : Path) (root : Entries) : Option Entries :=
  (within false
    (fun _ entries =>
      match entries.find? path.last.name with
      | none => some (entries, ())
      | some (.tables _ _) => some (entries, ())
      | some _ => none)
    path.front .header root).map (·.1)

/-- One statement more. -/
def step (d : Draft) : Statement → Option Draft
  | .assign path item stop =>
    (d.table.entries.assign path item .header).map fun entries =>
      { d with table := { d.table with entries := entries, stop := stop } }
  | .header span array path => do
    let root ← d.close
    if array then
      return ⟨← check path root, ⟨some (span, array, path), .nil, span.stop⟩⟩
    let (root, entries) ← take path root
    return ⟨root, ⟨some (span, array, path), entries, span.stop⟩⟩

end Draft

namespace Document

/-- The table of a document, unless two of its statements contradict each other. -/
def ofStatements? (statements : List Statement) : Option Entries := do
  let d ← statements.foldlM Draft.step Draft.start
  d.close

/-- The table of a text, unless it is no TOML. -/
def read? (s : List Char) : Option Entries := (Statement.readAll s).bind ofStatements?

end Document

end Teller.Toml
