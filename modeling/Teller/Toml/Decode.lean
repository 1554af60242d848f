import Teller.Decimal.Shortest
import Teller.Schema.Mismatch
import Teller.Schema.Shape
import Teller.Text.Utf8
import Teller.Toml.Document

/-!
# Decoding TOML

What an item gives where a value of some shape is wanted. An array stands for the object whose
members it lists, and a moment for an object none of whose members is known.

* `Cause`, `Fault`: what does not fit, and where it stands.
* `ofItem`: the value of a shape.
* `Excerpt`: the line of the text that a message shows.
* `decode`: the value of a whole text.
-/

namespace Teller.Toml

open Schema (Shape Fields Field Mismatch Found)

/-- Why an item does not fit. -/
inductive Cause where
  | mismatch (m : Mismatch)
  /-- A word was wanted, as a string or as the one name of a table. -/
  | notWord
  /-- The table has no name. -/
  | noName
  /-- The table has several names. -/
  | manyNames
  /-- Something stands under the name. -/
  | nonempty (expected : String)
  /-- What stands under the name is no table. -/
  | notTable (found : String)

/-- Doubles never need an exponent. -/
def floatLayout : Decimal.Layout := ⟨fun _ => true, "inf", "NaN"⟩

/-- The wording of a cause. -/
def Cause.message : Cause → String
  | .mismatch m => m.message floatLayout.write
  | .notWord => "wanted string or table"
  | .noName => "wanted exactly 1 element, found 0 elements"
  | .manyNames => "wanted exactly 1 element, more than 1 element"
  | .nonempty expected => "expected empty " ++ expected
  | .notTable found => "expected table, found " ++ found

/-- A cause and its place. What stands nowhere takes the place of what it stands in. -/
structure Fault where
  cause : Cause
  span : Option Span

/-- Places a fault that has no place yet. -/
def Fault.orAt (span : Option Span) (f : Fault) : Fault := ⟨f.cause, f.span.or span⟩

/-- A mismatch of an item. -/
def Item.fault (item : Item) (cause : Cause) : Fault := ⟨cause, item.span?⟩

/-- The kind of an item. -/
def Item.found : Item → Found
  | .text _ s => .text s
  | .integer _ n => .integer n
  | .float _ x => .float x
  | .flag _ b => .flag b
  | .array _ _ | .tables _ _ => .sequence
  | .moment _ | .table _ _ _ => .map

/-- The fault of an item of which another kind is wanted. -/
def Item.unwanted (wanted : String) (item : Item) : Fault :=
  item.fault (.mismatch (.kind item.found wanted))

/-- What may stand under a word that is given as the name of a table: nothing. -/
def Item.asNothing : Item → Except Fault Unit
  | .tables span items =>
    match items with
    | .nil => .ok ()
    | .cons _ _ => .error ⟨.nonempty "array", span⟩
  | .array span items =>
    match items with
    | .nil => .ok ()
    | .cons _ _ => .error ⟨.nonempty "table", some span⟩
  | .table _ span entries =>
    match entries with
    | .nil => .ok ()
    | .cons _ _ _ => .error ⟨.nonempty "table", span⟩
  | .text span _ => .error ⟨.notTable "string", some span⟩
  | .integer span _ => .error ⟨.notTable "integer", some span⟩
  | .float span _ => .error ⟨.notTable "float", some span⟩
  | .flag span _ => .error ⟨.notTable "boolean", some span⟩
  | .moment span => .error ⟨.notTable "datetime", some span⟩

/-- One of some words, by its number. -/
def pickWord (choices : List String) (s : String) : Except Cause (Fin choices.length) :=
  match choices.finIdxOf? s with
  | some i => .ok i
  | none => .error (.mismatch (.choice s choices))

/-- A word: a string, or a table with nothing under its one name. -/
def Item.word (choices : List String) : Item → Except Fault (Fin choices.length)
  | .text span s => (pickWord choices s).mapError fun c => ⟨c, some span⟩
  | .table _ span entries =>
    match entries with
    | .nil => .error ⟨.noName, span⟩
    | .cons key item .nil => do
      let i ← (pickWord choices key.name).mapError fun c => ⟨c, some key.span⟩
      item.asNothing.mapError (Fault.orAt span)
      return i
    | .cons _ _ (.cons _ _ _) => .error ⟨.manyNames, span⟩
  | item => .error (item.fault .notWord)

/-- An unsigned number of 64 bits. -/
def Item.count (wanted : String) (item : Item) : Except Fault UInt64 :=
  match item with
  | .integer span n =>
    if 0 ≤ n then .ok (UInt64.ofNat n.toNat)
    else .error ⟨.mismatch (.range (.integer n) wanted), some span⟩
  | item => .error (item.unwanted wanted)

/-- Goes through the entries of a table. `put` takes an entry whose name it knows. A fault without
a place stands where its entry's name does. -/
def Entries.fold {σ : Type} (put : String → Item → σ → Option (Except Fault σ)) :
    Entries → σ → Except Fault σ
  | .nil, state => .ok state
  | .cons key item rest, state =>
    match put key.name item state with
    | some next => do
      let state ← next.mapError (Fault.orAt (some key.span))
      rest.fold put state
    | none => rest.fold put state

mutual

/-- **The value of a shape at an item.** -/
def ofItem : (shape : Shape) → Item → Except Fault shape.Carrier
  | .text, item =>
    match item with
    | .text _ s => .ok s
    | item => .error (item.unwanted "a string")
  | .flag, item =>
    match item with
    | .flag _ b => .ok b
    | item => .error (item.unwanted "a boolean")
  | .count typeName, item => item.count typeName
  | .timestamp, item =>
    match item with
    | .text _ s => .ok (.text s)
    | .integer _ n => .ok (.millis (Int64.ofInt n))
    | item => .error (item.fault (.mismatch .timestamp))
  | .word choices, item => item.word choices
  | .optional inner, item => some <$> ofItem inner item
  | .object typeName fields, item => do
    let given ←
      match item with
      | .table _ span entries =>
        (entries.fold (putEntry fields) fields.none).mapError (Fault.orAt span)
      | .array span items =>
        (ofItems typeName fields.length 0 fields items).mapError (Fault.orAt (some span))
      | .tables span items =>
        (ofItems typeName fields.length 0 fields items).mapError (Fault.orAt span)
      | .moment _ => .ok fields.none
      | item => .error (item.unwanted ("struct " ++ typeName))
    match fields.missing? given with
    | some field => .error (item.fault (.mismatch (.missing field.name)))
    | none => return given

/-- Takes an entry whose name is among the fields; each may be given once. -/
def putEntry : (fields : Fields) → String → Item → fields.Carrier →
    Option (Except Fault fields.Carrier)
  | .nil, _, _, _ => none
  | .cons field shape rest, name, item, (slot, others) =>
    if name ∈ field.names then
      some <|
        match slot with
        | some _ => .error ⟨.mismatch (.duplicate field.name), none⟩
        | none => (fun v => (some v, others)) <$> ofItem shape item
    else (putEntry rest name item others).map ((fun r => (slot, r)) <$> ·)

/-- Takes members from the elements of an array, as many as there are. -/
def ofItems (typeName : String) (count given : Nat) :
    (fields : Fields) → Items → Except Fault fields.Carrier
  | .nil, _ => .ok ()
  | .cons field shape rest, items =>
    match items with
    | .nil =>
      if field.required then .error ⟨.mismatch (.tooShort given typeName count), none⟩
      else (fun r => (none, r)) <$> ofItems typeName count given rest .nil
    | .cons item more => do
      let v ← ofItem shape item
      (fun r => (some v, r)) <$> ofItems typeName count (given + 1) rest more

end

/-- What a message shows of a text: a line with its number, and a part of it underlined. -/
structure Excerpt where
  line : Nat
  column : Nat
  content : String
  marks : Nat
deriving DecidableEq, Repr

/-- The line in which a stretch of a text starts. Columns count characters; the underline is as long
as the stretch has octets, but ends with the line. -/
def Excerpt.of (text : List Char) (span : Span) : Excerpt :=
  let before := text.take (text.length - span.start.length)
  let column := (before.reverse.takeWhile (· != '\n')).length
  let content := (text.drop (before.length - column)).takeWhile (· != '\n')
  let length := Text.Utf8.size span.start - Text.Utf8.size span.stop
  { line := before.count '\n' + 1
    column := column + 1
    content := String.ofList content
    marks := max 1 (min length (Text.Utf8.size content - column)) }

/-- The lines of a message that show an excerpt. -/
def Excerpt.message (e : Excerpt) : String :=
  let number := toString e.line
  let margin := String.ofList (List.replicate (number.length + 1) ' ')
  "TOML parse error at line " ++ number ++ ", column " ++ toString e.column ++ "\n" ++
    margin ++ "|\n" ++ number ++ " | " ++ e.content ++ "\n" ++ margin ++ "|" ++
    String.ofList (List.replicate e.column ' ' ++ List.replicate e.marks '^') ++ "\n"

/-- Why a text does not give the value of a shape. -/
inductive Error where
  /-- It is no TOML. -/
  | notToml
  /-- A part of it does not fit the shape. -/
  | misfit (cause : Cause) (excerpt : Option Excerpt)

/-- The wording of an error. -/
def Error.message : Error → String
  | .notToml => "invalid TOML"
  | .misfit cause excerpt => (excerpt.map Excerpt.message).getD "" ++ cause.message ++ "\n"

/-- **The value of a shape that a text stands for.** -/
def decode (shape : Shape) (text : String) : Except Error shape.Carrier := do
  let some entries := Document.read? text.toList | throw .notToml
  (ofItem shape (.table .header none entries)).mapError fun f =>
    .misfit f.cause (f.span.map (Excerpt.of text.toList))

end Teller.Toml
