import Teller.Domain.Ascii
import Teller.Url.Address

/-!
# Hosts

* `Host`: a name or an address.
* `Host.ofText`: the host that a text gives. On the web names are domains and can be numbers in
  disguise; elsewhere a name is any text.
-/

namespace Teller.Url

/-- A host. -/
inductive Host where
  | name (text : List Char)
  | ipv4 (address : Nat)
  | ipv6 (pieces : List Nat)
deriving DecidableEq, Repr

/-- The text of a host. -/
def Host.text : Host → List Char
  | .name text => text
  | .ipv4 address => Ipv4.text address
  | .ipv6 pieces => '[' :: Ipv6.text pieces ++ [']']

/-- The address between brackets. -/
def Host.bracketed (cs : List Char) : Except UrlError Host :=
  match cs.getLast?, Ipv6.read? cs.dropLast with
  | some ']', some pieces => .ok (.ipv6 pieces)
  | _, _ => .error .ipv6

/-- The host of a domain name, which may have escapes. -/
def Host.ofDomain (cs : List Char) : Except UrlError Host := do
  let some domain := (Text.Utf8.decode? (unescape cs)).bind Domain.ascii? | throw .domain
  if domain.isEmpty then throw .emptyHost
  if Ipv4.endsInNumber domain then
    match Ipv4.ofHost? domain with
    | some address => return .ipv4 address
    | none => throw .ipv4
  return .name domain

/-- A character that no name has outside the web. -/
def isForbiddenInName (c : Char) : Bool :=
  c == Char.ofNat 0 || "\t\n\r #/:<>?@[\\]^|".toList.contains c

/-- The host of a name outside the web. -/
def Host.ofName (cs : List Char) : Except UrlError Host :=
  if cs.any isForbiddenInName then .error .hostCharacter
  else .ok (.name (escapeWith .controls cs))

/-- The host that a text gives. -/
def Host.ofText (special : Bool) : List Char → Except UrlError Host
  | '[' :: cs => Host.bracketed cs
  | cs => if special then Host.ofDomain cs else Host.ofName cs

end Teller.Url
