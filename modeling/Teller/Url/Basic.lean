import Teller.Url.Host
import Teller.Url.Path

/-!
# URLs

* `Url`: the parts of a URL, each in its written form.
* `Url.text`: the text of a URL.
* `Url.withPath`, `Url.push`, `Url.bare`, `Url.withoutUser`: URLs with a part changed.
-/

namespace Teller

namespace Url

/-- Where a resource is asked for, and on whose behalf. -/
structure Authority where
  username : List Char := []
  password : Option (List Char) := none
  host : Option Host
  port : Option Nat
deriving DecidableEq, Repr

/-- The text of a user in front of a host. -/
def Authority.userText (a : Authority) : List Char :=
  match a.username, a.password with
  | [], none => []
  | name, none => name ++ ['@']
  | name, some password => name ++ ':' :: password ++ ['@']

/-- The text of a host with its port. -/
def Authority.hostText (a : Authority) : List Char :=
  (a.host.map Host.text).getD [] ++
    match a.port with
    | some port => ':' :: Nat.toDigits 10 port
    | none => []

/-- The text of an authority. -/
def Authority.text (a : Authority) : List Char := a.userText ++ a.hostText

/-- The port that a scheme stands for. -/
def defaultPort? : String → Option Nat
  | "http" | "ws" => some 80
  | "https" | "wss" => some 443
  | "ftp" => some 21
  | _ => none

/-- How a scheme reads its URLs. -/
def mannerOf (scheme : String) : Manner :=
  if scheme = "file" then .file
  else if (defaultPort? scheme).isSome then .web
  else .plain

end Url

/-- A URL. -/
structure Url where
  scheme : String
  authority : Option Url.Authority
  path : Url.Path
  query : Option (List Char) := none
  fragment : Option (List Char) := none
deriving DecidableEq, Repr

namespace Url

/-- How the URL's scheme reads its URLs. -/
def manner (u : Url) : Manner := mannerOf u.scheme

/-- The text in front of the path. Without an authority a path that starts with two slashes needs
a guard. -/
def frontText (u : Url) : List Char :=
  u.scheme.toList ++ ':' ::
    match u.authority with
    | some a => '/' :: '/' :: a.text
    | none =>
      match u.path with
      | .rooted ([] :: _ :: _) => ['/', '.']
      | _ => []

/-- A part of a URL behind its mark, if it is there. -/
def markedText (mark : Char) : Option (List Char) → List Char
  | some cs => mark :: cs
  | none => []

/-- The characters of a URL. -/
def chars (u : Url) : List Char :=
  u.frontText ++ u.path.text ++ markedText '?' u.query ++ markedText '#' u.fragment

/-- The text of a URL. -/
def text (u : Url) : String := String.ofList u.chars

/-- The host of a URL. -/
def host? (u : Url) : Option Host := u.authority.bind (·.host)

/-- The port that a request goes to. -/
def port? (u : Url) : Option Nat := (u.authority.bind (·.port)).or (defaultPort? u.scheme)

/-- Whether the path is a text without structure. -/
def isFlat (u : Url) : Bool :=
  match u.path with
  | .flat _ => true
  | .rooted _ => false

/-- Without query and fragment. -/
def bare (u : Url) : Url := { u with query := none, fragment := none }

/-- Without fragment. -/
def withoutFragment (u : Url) : Url := { u with fragment := none }

/-- Without a user. -/
def withoutUser (u : Url) : Url :=
  { u with authority := u.authority.map fun a => { a with username := [], password := none } }

/-- With the path that a text gives. -/
def withPath (u : Url) (text : List Char) : Url := { u with path := .read u.manner text }

/-- With one segment more. -/
def push (u : Url) (segment : List Char) : Url := { u with path := u.path.push u.manner segment }

end Url

end Teller
