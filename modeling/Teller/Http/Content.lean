import Teller.Http.Fetch
import Teller.Text.Charset

/-!
# The content of an answer

* `Answer.mentionsJson`: whether a header announces JSON.
* `Answer.label?`: the character set that a header names.
* `Answer.text?`: the text of the body, if all of it arrived.
-/

namespace Teller.Http

/-- The text of a header, if it is visible ASCII. -/
def headerText? (bs : List UInt8) : Option (List Char) :=
  let value := trimHeader bs
  if value.all fun b => (0x20 ≤ b && b < 0x7F) || b == 0x09 then
    some (value.map fun b => Char.ofNat b.toNat)
  else none

/-- A text occurs in another. -/
def occursIn (needle : List Char) : List Char → Bool
  | [] => needle.isEmpty
  | c :: cs => needle.isPrefixOf (c :: cs) || occursIn needle cs

/-- The header that tells what the body is, if it is a text. -/
def Answer.contentText? (a : Answer) : Option (List Char) := a.contentType.bind headerText?

/-- The header announces JSON: the word stands somewhere in it. -/
def Answer.mentionsJson (a : Answer) : Bool := a.contentText?.any (occursIn "json".toList)

/-- A character of a name in a header. -/
def isTokenChar (c : Char) : Bool := c.isAlphanum || "!#$%&+-.^_|~".toList.contains c ||
  c == Char.ofNat 0x27 || c == Char.ofNat 0x60

/-- A character that can stand between quotation marks. -/
def isQuotable (c : Char) : Bool := 0x20 ≤ c.toNat && c.toNat != 0x7F

/-- The value of a parameter between quotation marks, from behind the first one, and the parameters
behind it. The value is never empty: its first character may even be a quotation mark. -/
def readQuoted : List Char → Option (List Char × List Char)
  | [] => none
  | c :: cs => do
    let value := c :: cs.takeWhile (· != '"')
    guard (value.all isQuotable)
    let _ :: rest := cs.dropWhile (· != '"') | none
    match rest.dropWhile (· == ' ') with
    | [] => some (value, [])
    | ';' :: rest => some (value, rest)
    | _ => none

/-- The value of a parameter, and the parameters behind it. Only the last value can be empty. -/
def readValue : List Char → Option (List Char × List Char)
  | '"' :: cs => readQuoted cs
  | cs =>
    let value := cs.takeWhile isTokenChar
    match cs.dropWhile isTokenChar with
    | [] => some (value, [])
    | ';' :: rest => if value.isEmpty then none else some (value, rest)
    | _ => none

/-- The parameters of a header behind its first semicolon. A header with a fault in it has none. -/
def readParameters : Nat → List Char → Option (List (List Char × List Char))
  | 0, _ => none
  | fuel + 1, s =>
    match s.dropWhile (· == ' ') with
    | [] => some []
    | c :: cs => do
      let name := (c :: cs).takeWhile isTokenChar
      guard (!name.isEmpty)
      let '=' :: rest := (c :: cs).dropWhile isTokenChar | none
      let (value, rest) ← readValue rest
      return (name, value) :: (← readParameters fuel rest)

/-- The parameters of a header that names a kind of content. -/
def parameters (header : List Char) : List (List Char × List Char) :=
  let kind := header.takeWhile (· != ';')
  let name := kind.takeWhile isTokenChar
  match kind.dropWhile isTokenChar with
  | '/' :: sub =>
    if name.isEmpty ∨ sub.isEmpty ∨ ¬ sub.all isTokenChar then []
    else (readParameters (header.length + 1) (header.drop (kind.length + 1))).getD []
  | _ => []

/-- The label of the character set that the header names. -/
def Answer.label? (a : Answer) : Option (List Char) :=
  ((parameters (a.contentText?.getD [])).find? fun p =>
    p.1.map Char.toLower == "charset".toList).map (·.2)

/-- The text of the body in the character set that the header names. It is UTF-8 if there is no
label or an unknown one. -/
def Answer.labelledText (a : Answer) : String :=
  match a.label? with
  | none => Text.Charset.utf8.text a.body
  | some label =>
    match Text.Charset.ofLabel? label with
    | some charset => charset.text a.body
    | none => a.foreignText.getD (Text.Charset.utf8.text a.body)

/-- Statuses whose answers have no body, whatever follows them. -/
def isBodiless (status : Nat) : Bool := status == 204 || status == 304

/-- **The text of the body**; `none` if it was cut short. A byte order mark wins over the label. -/
def Answer.text? (a : Answer) : Option String :=
  if isBodiless a.status then some ""
  else if a.complete then some ((Text.Charset.markedText? a.body).getD a.labelledText)
  else none

/-- The statuses of success. -/
def isSuccess (status : Nat) : Bool := 200 ≤ status && status ≤ 299

end Teller.Http
