import Teller.Http.Message
import Teller.Url.Read

/-!
# Exchanges with redirects

An answer can send the client elsewhere. It follows ten times, and repeats a body only where the
status asks for that.

* `Request.redirected`: the request that follows a redirect.
* `fetch`: an exchange up to its final answer, with all requests that the backend received.
-/

namespace Teller.Http

/-- The statuses that send the client elsewhere. -/
def isRedirect (status : Nat) : Bool := status ∈ [301, 302, 303, 307, 308]

/-- The statuses whose redirect repeats the request as it was. -/
def repeats (status : Nat) : Bool := status ∈ [307, 308]

/-- The value of a header without the blanks around it. -/
def trimHeader (bs : List UInt8) : List UInt8 :=
  let blank (b : UInt8) : Bool := b == 0x20 || b == 0x09
  ((bs.dropWhile blank).reverse.dropWhile blank).reverse

/-- The URL that an answer to a request sends the client to. -/
def target? (r : Request) (a : Answer) : Option Url := do
  let location ← a.location
  let text ← Text.Utf8.decode? (trimHeader location)
  let url ← (Url.resolve r.url (String.ofList text)).toOption
  if isWeb url ∧ ¬ hasPlainHost url then none
  return url.withoutFragment

/-- Two URLs of one host and port. -/
def sameHost (a b : Url) : Bool := a.host? == b.host? && a.port? == b.port?

/-- A step from one URL to another gives up encryption. -/
def isDowngrade (source target : Url) : Bool :=
  source.scheme == "https" && target.scheme == "http"

/-- The request that follows a redirect. Unless the status repeats it, a request with a body becomes
one without. Credentials stay with their host. The referer is the URL before, unless encryption is
given up: then it stays what it was. -/
def Request.redirected (r : Request) (status : Nat) (url : Url) : Request :=
  { method := if repeats status then r.method else .get
    url := url
    body := if repeats status then r.body else none
    authorization := if sameHost url r.url then r.authorization else none
    referer :=
      if isDowngrade r.url url then r.referer else some r.url.withoutUser.withoutFragment.text }

/-- An exchange: the requests that the backend received, the first one first, and the final answer
with the URL that it came from. -/
structure Exchange where
  requests : List Request
  final : Except TransportFault (Url × Answer)

/-- An exchange that begins with one request more. -/
def Exchange.behind (r : Request) (e : Exchange) : Exchange :=
  { e with requests := r :: e.requests }

/-- Sends a request, encrypted or not, and follows redirects, `left` of them at most. `first` is the
URL that the exchange began with, and `received` are the requests that the backend knows already. -/
def follow (backend : Backend) (first : Url) : Nat → List Request → Request → Exchange
  | left, received, r =>
    if ¬ isWeb r.url then ⟨[], .error (.sending first)⟩
    else
      match backend (r :: received) with
      | .unreachable => ⟨[], .error (.sending first)⟩
      | .broken => ⟨[r], .error (.sending first)⟩
      | .answer a =>
        match if isRedirect a.status then target? r a else none with
        | none => ⟨[r], .ok (r.url, a)⟩
        | some url =>
          match left with
          | 0 => ⟨[r], .error (.redirecting r.url)⟩
          | left + 1 =>
            if isWeb url then
              (follow backend first left (r :: received) (r.redirected a.status url)).behind r
            else ⟨[r], .error (.building url)⟩

/-- The number of redirects that are followed. -/
def maxRedirects : Nat := 10

/-- **An exchange up to its final answer.** -/
def fetch (backend : Backend) (received : List Request) (r : Request) : Exchange :=
  follow backend r.url maxRedirects received r

end Teller.Http
