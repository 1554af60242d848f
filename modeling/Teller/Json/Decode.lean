import Teller.Json.Node
import Teller.Schema.Shape

/-!
# Decoding JSON

What a node gives where a value of some shape is wanted. An object may also be given as the array of
its members; names that the shape does not know are skipped.

* `Trouble`: a fault, or a mismatch whose place the enclosing object or array decides.
* `Shape.ofNode`: the value of a shape.
* `decode`: the value of a whole text; `readValue`: any value of a whole text.
-/

namespace Teller.Json

open Schema (Shape Fields Field Mismatch Found Timestamp)

/-- Why a value could not be had. A floating mismatch is found after the text `ahead` was reached;
the object or array around it closes first, as far as it can. -/
inductive Trouble where
  | placed (f : Fault)
  | floating (m : Mismatch) (ahead : List Char)

/-- A mismatch at a place. -/
def Trouble.at (m : Mismatch) (ahead : List Char) : Trouble := .placed ⟨.mismatch m, ahead, 0⟩

/-- Faults are troubles. -/
def orFault {α : Type} : Except Fault α → Except Trouble α
  | .ok a => .ok a
  | .error f => .error (.placed f)

/-- The text behind the end of an object, if it ends here. -/
def closeBrace (s : List Char) : List Char :=
  match skipSpace s with
  | [] => []
  | c :: r => if c = '\x7d' then r else c :: r

/-- The text behind the end of an array, or behind a comma, if one of them stands here. -/
def closeBracket (s : List Char) : List Char :=
  match skipSpace s with
  | ']' :: r => r
  | ',' :: r => skipSpace r
  | r => r

/-- Places a floating mismatch by the end of the object or array around it. -/
def Trouble.settle (close : List Char → List Char) : Trouble → Trouble
  | .placed f => .placed f
  | .floating m ahead => .at m (close ahead)

/-- The end of an array of which no more elements are wanted. -/
def endOfArray (s : List Char) : Except Fault Unit :=
  match skipSpace s with
  | [] => .error ⟨.endInArray, [], 0⟩
  | ']' :: _ => .ok ()
  | ',' :: r =>
    match skipSpace r with
    | [] => .error ⟨.trailingCharacters, [], 0⟩
    | ']' :: r' => .error ⟨.trailingComma, ']' :: r', 1⟩
    | r' => .error ⟨.trailingCharacters, r', 1⟩
  | r => .error ⟨.trailingCharacters, r, 1⟩

/-- The kind of a number. -/
def Number.found : Number → Found
  | .integer n => .integer n
  | .float x => .float x

/-- The trouble with a node of which another kind is wanted. Strings and numbers are read first. -/
def Node.unwanted (wanted : String) : Node → Trouble
  | .null _ rest => .at (.kind .null wanted) rest
  | .bool _ b rest => .at (.kind (.flag b) wanted) rest
  | .number _ n =>
    match n.decode with
    | .ok x => .at (.kind x.found wanted) (n.ending.toOption.getD [])
    | .error f => .placed f
  | .text _ q =>
    match q.text with
    | .ok s => .at (.kind (.text s) wanted) q.rest
    | .error f => .placed f
  | .array start _ => .at (.kind .sequence wanted) start
  | .object start _ => .at (.kind .map wanted) start
  | .broken _ gap => .placed gap.decoding

/-- A text that is read further; messages call it `wanted`. -/
def Node.textAs {α : Type} (wanted : String) (read : String → Except Mismatch α) :
    Node → Except Trouble α
  | .text _ q => do
    let s ← orFault q.text
    match read s with
    | .ok a => .ok a
    | .error m => .error (.at m q.rest)
  | node => .error (node.unwanted wanted)

/-- One of some words, by its number. -/
def pickWord (choices : List String) (s : String) : Except Mismatch (Fin choices.length) :=
  match choices.finIdxOf? s with
  | some i => .ok i
  | none => .error (.choice s choices)

/-- A word: a string, or an object that gives nothing under it. -/
def Node.word (choices : List String) (depth : Nat) :
    Node → Except Trouble (Fin choices.length)
  | .text start q => Node.textAs "" (pickWord choices) (.text start q)
  | .object start _ =>
    if depth ≤ 1 then .error (.placed ⟨.tooDeep, start, 1⟩)
    else
      match Node.read start.tail with
      | .text s q => do
        let i ← Node.textAs "" (pickWord choices) (.text s q)
        match skipSpace q.rest with
        | [] => .error (.placed ⟨.endInObject, [], 0⟩)
        | ':' :: r =>
          match Node.read r with
          | .null _ rest =>
            match skipSpace rest with
            | [] => .error (.placed ⟨.endInObject, [], 0⟩)
            | c :: r' =>
              if c = '\x7d' then .ok i else .error (.placed ⟨.valueExpected, c :: r', 0⟩)
          | node => .error (node.unwanted "unit")
        | r => .error (.placed ⟨.colonExpected, r, 1⟩)
      | node => .error (node.unwanted "variant identifier")
  | .broken [] gap => .error (.placed gap.decoding)
  | node => .error (.placed ⟨.valueExpected, node.start, 1⟩)

/-- An unsigned number of 64 bits. -/
def Node.count (wanted : String) : Node → Except Trouble UInt64
  | .number start n => do
    match ← orFault n.decode with
    | .integer x =>
      if 0 ≤ x then .ok (UInt64.ofNat x.toNat)
      else .error (.at (.range (.integer x) wanted) (n.ending.toOption.getD []))
    | .float _ => .error (Node.unwanted wanted (.number start n))
  | node => .error (node.unwanted wanted)

/-- Milliseconds or a text. Any value is read to its end before it is refused. -/
def Node.timestamp (depth : Nat) (node : Node) : Except Trouble Timestamp := do
  let refused : Trouble := .floating .timestamp (node.rest?.getD [])
  match ← orFault (node.value depth) with
  | .number (.integer n) =>
    if Int64.minValue.toInt ≤ n ∧ n ≤ Int64.maxValue.toInt then .ok (.millis (Int64.ofInt n))
    else .error refused
  | .text s => .ok (.text s)
  | _ => .error refused

/-- Goes through the members of an object. `put` takes a member whose name it knows. -/
def Members.fold {σ : Type} (put : String → List Char → Node → σ → Option (Except Trouble σ)) :
    Members → σ → Except Trouble (σ × List Char)
  | .close rest, state => .ok (state, rest)
  | .broken gap, _ => .error (.placed gap.decoding)
  | .member name node more, state => do
    let k ← orFault name.text
    match put k name.rest node state with
    | some next => more.fold put (← next)
    | none =>
      orFault node.skip
      more.fold put state

mutual

/-- **The value of a shape at a node.** -/
def ofNode : (shape : Shape) → Nat → Node → Except Trouble shape.Carrier
  | .text, _, node => Node.textAs "a string" Except.ok node
  | .flag, _, node =>
    match node with
    | .bool _ b _ => .ok b
    | node => .error (node.unwanted "a boolean")
  | .count typeName, _, node => node.count typeName
  | .timestamp, depth, node => node.timestamp depth
  | .word choices, depth, node => node.word choices depth
  | .optional inner, depth, node =>
    match node with
    | .null _ _ => .ok none
    | node => some <$> ofNode inner depth node
  | .object typeName fields, depth, node =>
    match node with
    | .array start items =>
      if depth ≤ 1 then .error (.placed ⟨.tooDeep, start, 1⟩)
      else
        match ofItems typeName fields.length 0 fields (depth - 1) start.tail items with
        | .error t => .error (t.settle closeBracket)
        | .ok (members, ahead) => do
          orFault (endOfArray ahead)
          return members
    | .object start members =>
      if depth ≤ 1 then .error (.placed ⟨.tooDeep, start, 1⟩)
      else
        match members.fold (putMember fields (depth - 1)) fields.none with
        | .error t => .error (t.settle closeBrace)
        | .ok (given, rest) =>
          match fields.missing? given with
          | some field => .error (.at (.missing field.name) rest)
          | none => .ok given
    | node => .error (node.unwanted ("struct " ++ typeName))

/-- Takes a member whose name is among the fields; each may be given once. -/
def putMember : (fields : Fields) → Nat → String → List Char → Node → fields.Carrier →
    Option (Except Trouble fields.Carrier)
  | .nil, _, _, _, _, _ => none
  | .cons field shape rest, depth, name, ahead, node, (slot, others) =>
    if name ∈ field.names then
      some <|
        match slot with
        | some _ => .error (.floating (.duplicate field.name) ahead)
        | none => (fun v => (some v, others)) <$> ofNode shape depth node
    else
      (putMember rest depth name ahead node others).map ((fun r => (slot, r)) <$> ·)

/-- Takes members from the elements of an array, as many as there are, and the text behind the
last one taken. -/
def ofItems (typeName : String) (count given : Nat) : (fields : Fields) → Nat → List Char → Items →
    Except Trouble (fields.Carrier × List Char)
  | .nil, _, ahead, _ => .ok ((), ahead)
  | .cons field shape rest, depth, ahead, items =>
    match items with
    | .broken gap => .error (.placed gap.decoding)
    | .close _ =>
      if field.required then .error (.floating (.tooShort given typeName count) ahead)
      else (fun (r, s) => ((none, r), s)) <$> ofItems typeName count given rest depth ahead items
    | .item node more => do
      let v ← ofNode shape depth node
      (fun (r, s) => ((some v, r), s)) <$>
        ofItems typeName count (given + 1) rest depth (node.rest?.getD []) more

end

/-- The levels of nesting that a text may have, and one more. -/
def depthLimit : Nat := 128

/-- Reads a whole text: one value, and nothing behind it but space. -/
def decodeAs {α : Type} (read : Node → Except Trouble α) (text : String) : Except Error α :=
  let cs := text.toList
  let node := Node.read cs
  match read node with
  | .error (.placed f) => .error (f.locate cs)
  | .error (.floating m ahead) => .error (Fault.locate cs ⟨.mismatch m, ahead, 0⟩)
  | .ok v =>
    match skipSpace (node.rest?.getD []) with
    | [] => .ok v
    | r => .error (Fault.locate cs ⟨.trailingCharacters, r, 1⟩)

/-- **The value of a shape that a text stands for.** -/
def decode (shape : Shape) : String → Except Error shape.Carrier :=
  decodeAs (ofNode shape depthLimit)

mutual

/-- The value with the members of every object in the order of their names; of several with one
name the last stays. -/
def Value.sorted : Value → Value
  | .array items => .array (sortedItems items)
  | .object members => .object (sortedMembers members)
  | v => v

/-- Sorts each of some values. -/
def sortedItems : List Value → List Value
  | [] => []
  | v :: vs => v.sorted :: sortedItems vs

/-- Sorts members by name; a member gives way to a later one of its name. -/
def sortedMembers : List (String × Value) → List (String × Value)
  | [] => []
  | (k, v) :: ms =>
    let rest := sortedMembers ms
    if rest.any (·.1 == k) then rest
    else rest.takeWhile (·.1 < k) ++ (k, v.sorted) :: rest.dropWhile (·.1 < k)

end

/-- Any value of a whole text. -/
def readValue (text : String) : Except Error Value :=
  Value.sorted <$> decodeAs (fun node => orFault (node.value depthLimit)) text

end Teller.Json
