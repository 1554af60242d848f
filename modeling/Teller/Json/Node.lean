import Teller.Json.Token

/-!
# The tree of a JSON text

A text is read once, into a tree that keeps for each value the text it starts with and the text
behind it. Reading never fails: where the text breaks off the tree ends in a gap. What a value is
wanted for is decided later, in the order of the text, so the first fault wins.

* `Node`, `Items`, `Members`: the tree.
* `Node.read`: reads one value.
* `Node.skip`: checks a value that nobody asks for.
* `Node.value`: the value itself, with at most `depth` levels of nesting.
-/

namespace Teller.Json

mutual

/-- A value as it stands in a text, with the text from its first character on. -/
inductive Node where
  | null (start rest : List Char)
  | bool (start : List Char) (b : Bool) (rest : List Char)
  | number (start : List Char) (n : Numeral)
  | text (start : List Char) (q : Quoted)
  | array (start : List Char) (items : Items)
  | object (start : List Char) (members : Members)
  /-- No value could be read. `start` is empty where the text did not get as far as a value. -/
  | broken (start : List Char) (gap : Gap)

/-- The elements of an array from some place on. -/
inductive Items where
  | close (rest : List Char)
  | item (node : Node) (more : Items)
  | broken (gap : Gap)

/-- The members of an object from some place on. -/
inductive Members where
  | close (rest : List Char)
  | member (name : Quoted) (node : Node) (more : Members)
  | broken (gap : Gap)

end

/-- The text that a value starts with. -/
def Node.start : Node → List Char
  | .null s _ | .bool s _ _ | .number s _ | .text s _ | .array s _ | .object s _ | .broken s _ => s

/-- The text behind an array. -/
def Items.rest? : Items → Option (List Char)
  | .close rest => some rest
  | .item _ more => more.rest?
  | .broken _ => none

/-- The text behind an object. -/
def Members.rest? : Members → Option (List Char)
  | .close rest => some rest
  | .member _ _ more => more.rest?
  | .broken _ => none

/-- The text behind a value, unless it breaks off. -/
def Node.rest? : Node → Option (List Char)
  | .null _ rest | .bool _ _ rest => some rest
  | .number _ n => n.ending.toOption
  | .text _ q => q.ending.toOption
  | .array _ items => items.rest?
  | .object _ members => members.rest?
  | .broken _ _ => none

/-- Reads the rest of a word. -/
def readWord : List Char → List Char → Except Fault (List Char)
  | [], s => .ok s
  | _ :: _, [] => .error ⟨.endInValue, [], 0⟩
  | w :: ws, c :: s => if c = w then readWord ws s else .error ⟨.wordExpected, c :: s, 1⟩

/-- The node of a word, or its gap. -/
def wordNode (start : List Char) (node : List Char → Node) : Except Fault (List Char) → Node
  | .ok rest => node rest
  | .error f => .broken start (.both f)

mutual

/-- Reads a value. Each step takes fuel, of which twice the length of the text is enough. -/
def readNode : Nat → List Char → Node
  | 0, s => .broken s (.both ⟨.valueExpected, s, 1⟩)
  | fuel + 1, s =>
    match skipSpace s with
    | [] => .broken [] (.both ⟨.endInValue, [], 0⟩)
    | c :: r =>
      let start := c :: r
      if c = 'n' then wordNode start (.null start) (readWord ['u', 'l', 'l'] r)
      else if c = 't' then wordNode start (.bool start true) (readWord ['r', 'u', 'e'] r)
      else if c = 'f' then wordNode start (.bool start false) (readWord ['a', 'l', 's', 'e'] r)
      else if c = '-' then .number start (Numeral.read true r)
      else if c.isDigit then .number start (Numeral.read false start)
      else if c = '"' then .text start (Quoted.read r)
      else if c = '[' then .array start (readItems fuel true r)
      else if c = '\x7b' then .object start (readMembers fuel true r)
      else .broken start (.both ⟨.valueExpected, start, 1⟩)

/-- Reads the elements of an array; `first` tells that none came before. -/
def readItems : Nat → Bool → List Char → Items
  | 0, _, s => .broken (.both ⟨.valueExpected, s, 1⟩)
  | fuel + 1, first, s =>
    let item (s : List Char) : Items :=
      let node := readNode fuel s
      .item node (match node.rest? with
        | some rest => readItems fuel false rest
        | none => .close [])
    match skipSpace s with
    | [] => .broken (.both ⟨.endInArray, [], 0⟩)
    | c :: r =>
      if c = ']' then .close r
      else if first then item (c :: r)
      else if c = ',' then
        match skipSpace r with
        | ']' :: r' => .broken ⟨⟨.trailingComma, ']' :: r', 1⟩, ⟨.valueExpected, ']' :: r', 1⟩⟩
        | r' => item r'
      else .broken (.both ⟨.arrayCommaOrEnd, c :: r, 1⟩)

/-- Reads the members of an object; `first` tells that none came before. -/
def readMembers : Nat → Bool → List Char → Members
  | 0, _, s => .broken (.both ⟨.valueExpected, s, 1⟩)
  | fuel + 1, first, s =>
    let member (s : List Char) : Members :=
      let name := Quoted.read s
      match skipSpace name.rest with
      | [] => .member name (.broken [] (.both ⟨.endInObject, [], 0⟩)) (.close [])
      | c :: r =>
        if c = ':' then
          let node := readNode fuel r
          .member name node (match node.rest? with
            | some rest => readMembers fuel false rest
            | none => .close [])
        else .member name (.broken [] (.both ⟨.colonExpected, c :: r, 1⟩)) (.close [])
    match skipSpace s with
    | [] => .broken (.both ⟨.endInObject, [], 0⟩)
    | c :: r =>
      if c = '\x7d' then .close r
      else if first then
        if c = '"' then member r else .broken (.both ⟨.nameNotText, c :: r, 1⟩)
      else if c = ',' then
        match skipSpace r with
        | [] => .broken ⟨⟨.endInValue, [], 0⟩, ⟨.endInObject, [], 0⟩⟩
        | d :: r' =>
          if d = '"' then member r'
          else if d = '\x7d' then
            .broken ⟨⟨.trailingComma, d :: r', 1⟩, ⟨.nameNotText, d :: r', 1⟩⟩
          else .broken (.both ⟨.nameNotText, d :: r', 1⟩)
      else .broken (.both ⟨.objectCommaOrEnd, c :: r, 1⟩)

end

/-- The value at the start of a text. -/
def Node.read (s : List Char) : Node := readNode (2 * s.length + 2) s

mutual

/-- Checks a value that nobody asks for. -/
def Node.skip : Node → Except Fault Unit
  | .null _ _ | .bool _ _ _ => .ok ()
  | .number _ n =>
    match n.ending with
    | .ok _ => .ok ()
    | .error gap => .error gap.skipping
  | .text _ q => q.skip
  | .array _ items => items.skip
  | .object _ members => members.skip
  | .broken _ gap => .error gap.skipping

/-- Checks elements that nobody asks for. -/
def Items.skip : Items → Except Fault Unit
  | .close _ => .ok ()
  | .item node more => do node.skip; more.skip
  | .broken gap => .error gap.skipping

/-- Checks members that nobody asks for. -/
def Members.skip : Members → Except Fault Unit
  | .close _ => .ok ()
  | .member name node more => do name.skip; node.skip; more.skip
  | .broken gap => .error gap.skipping

end

/-- The value of a number token. -/
def Numeral.decode (n : Numeral) : Except Fault Number :=
  match n.ending with
  | .ok rest => n.number rest
  | .error gap => .error gap.decoding

mutual

/-- The value that a node stands for. An array or object needs a level of `depth` for itself. -/
def Node.value (depth : Nat) : Node → Except Fault Value
  | .null _ _ => .ok .null
  | .bool _ b _ => .ok (.bool b)
  | .number _ n => .number <$> n.decode
  | .text _ q => .text <$> q.text
  | .array start items =>
    if depth ≤ 1 then .error ⟨.tooDeep, start, 1⟩ else .array <$> items.values (depth - 1)
  | .object start members =>
    if depth ≤ 1 then .error ⟨.tooDeep, start, 1⟩ else .object <$> members.values (depth - 1)
  | .broken _ gap => .error gap.decoding

/-- The values of the elements. -/
def Items.values (depth : Nat) : Items → Except Fault (List Value)
  | .close _ => .ok []
  | .item node more => do
    let v ← node.value depth
    return v :: (← more.values depth)
  | .broken gap => .error gap.decoding

/-- The names and values of the members, in the order of the text. -/
def Members.values (depth : Nat) : Members → Except Fault (List (String × Value))
  | .close _ => .ok []
  | .member name node more => do
    let k ← name.text
    let v ← node.value depth
    return (k, v) :: (← more.values depth)
  | .broken gap => .error gap.decoding

end

end Teller.Json
