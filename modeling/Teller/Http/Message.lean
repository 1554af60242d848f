import Teller.Json.Value
import Teller.Text.Base64
import Teller.Url.Basic

/-!
# Requests and answers

* `Request`: a request as it reaches a backend; `Request.headers`: its headers.
* `Answer`: an answer; `Reply`: an answer, or what comes in its place.
* `Backend`: whoever answers. What it answers may depend on all requests that it has received.
* `Request.prepare`: the request for a URL. The user that the URL names goes into a header.
-/

namespace Teller.Http

/-- What a request does. -/
inductive Method where
  | get
  | post
deriving DecidableEq, Repr

/-- The name of a method. -/
def Method.name : Method → String
  | .get => "GET"
  | .post => "POST"

/-- A request as it reaches a backend. A body is JSON. The headers that are not here follow from
what is: `Request.headers` has them all. -/
structure Request where
  method : Method
  url : Url
  body : Option Json.Value := none
  authorization : Option String := none
  referer : Option String := none

namespace Request

/-- The host that a request names. -/
def host (r : Request) : String :=
  String.ofList ((r.url.authority.map Url.Authority.hostText).getD [])

/-- What kind of body a request announces. -/
def contentType (r : Request) : Option String := r.body.map fun _ => "application/json"

/-- What kind of answer a request accepts. -/
def accept : String := "*/*"

/-- The text of a request's body. -/
def bodyText (r : Request) : String := (r.body.map Json.Value.compact).getD ""

/-- The number of octets that a request announces, if it has a body. -/
def contentLength (r : Request) : Option Nat :=
  r.body.map fun v => (Text.Utf8.encode v.compact.toList).length

/-- **The headers of a request** as they reach a backend. -/
def headers (r : Request) : List (String × String) :=
  let given (name : String) (value : Option String) : List (String × String) :=
    (value.map fun v => (name, v)).toList
  ("host", r.host) :: ("accept", accept) :: given "content-type" r.contentType ++
    given "content-length" (r.contentLength.map toString) ++
    given "authorization" r.authorization ++ given "referer" r.referer

end Request

/-- An answer. The two headers are octets; `complete` tells whether the whole body arrived. -/
structure Answer where
  status : Nat
  contentType : Option (List UInt8) := none
  location : Option (List UInt8) := none
  body : List UInt8 := []
  complete : Bool := true
  /-- What the client's decoder makes of the body, where the content type names a character set that
  it knows beside those of `Text.Charset`; `none` if it knows no such set. It may be any text. -/
  foreignText : Option String := none
deriving DecidableEq, Repr

/-- What a request leads to. -/
inductive Reply where
  | answer (a : Answer)
  /-- The connection is closed, or what comes is not HTTP. -/
  | broken
  /-- The request does not reach the backend. -/
  | unreachable
deriving DecidableEq, Repr

/-- Whoever answers: the reply to the first of some requests, behind which stand those received
before, the latest first. -/
abbrev Backend := List Request → Reply

namespace Backend

/-- A backend that no request reaches. -/
def unreachable : Backend := fun _ => .unreachable

/-- What a backend answers that has nothing else to say. -/
def silent : Reply := .answer
  { status := 200, contentType := some (Text.Utf8.encode "application/json".toList),
    body := Text.Utf8.encode "\x7b\x7d".toList }

/-- A backend that gives some replies in turn. -/
def ofList (replies : List Reply) : Backend := fun requests =>
  replies.getD (requests.length - 1) silent

end Backend

/-- Why an exchange fails. The URL is part of the message. -/
inductive TransportFault where
  /-- No answer came. -/
  | sending (url : Url)
  /-- The URL cannot be asked for. -/
  | building (url : Url)
  /-- One redirect too many. -/
  | redirecting (url : Url)
  /-- The body of an answer was cut short. -/
  | reading
deriving DecidableEq, Repr

/-- The wording of a fault. -/
def TransportFault.message : TransportFault → String
  | .sending url => "error sending request for url (" ++ url.text ++ ")"
  | .building url => "builder error for url (" ++ url.text ++ ")"
  | .redirecting url => "error following redirect for url (" ++ url.text ++ ")"
  | .reading => "error decoding response body"

/-- A URL that requests can go to. -/
def isWeb (url : Url) : Bool := url.scheme == "http" || url.scheme == "https"

/-- A host that can stand in a request. -/
def hasPlainHost (url : Url) : Bool :=
  match url.host? with
  | some host => host.text.all fun c => !("\"`\x7b\x7d".toList.contains c)
  | none => false

/-- The text that an escaped part of a URL stands for. -/
def plainText? (cs : List Char) : Option (List Char) := Text.Utf8.decode? (Url.unescape cs)

/-- The name and the password of the user that a URL names, unless their escapes are no text. -/
def user? (url : Url) : Option (List Char × Option (List Char)) := do
  let a ← url.authority
  let name ← plainText? a.username
  let password := a.password.bind plainText?
  if name.isEmpty ∧ password.isNone then none else some (name, password)

/-- The header for a user. -/
def basic (name : List Char) (password : Option (List Char)) : String :=
  let credentials := name ++ ':' :: password.getD []
  "Basic " ++ String.ofList (Text.Base64.encode (Text.Utf8.encode credentials))

/-- **The request for a URL.** Its user goes into a header. -/
def Request.prepare (method : Method) (url : Url) (body : Option Json.Value) :
    Except TransportFault Request :=
  let (url, authorization) :=
    match user? url with
    | some (name, password) => (url.withoutUser, some (basic name password))
    | none => (url, none)
  if isWeb url ∧ hasPlainHost url then .ok { method, url, body, authorization }
  else .error (.building url)

end Teller.Http
