/-!
# Why a text is no URL
-/

namespace Teller

/-- The faults of a text that should be a URL. -/
inductive UrlError where
  | emptyHost
  | domain
  | port
  | ipv4
  | ipv6
  | hostCharacter
  | relative
  | relativeToOpaque
deriving DecidableEq, Repr

/-- The wording of a fault. -/
def UrlError.message : UrlError → String
  | .emptyHost => "empty host"
  | .domain => "invalid international domain name"
  | .port => "invalid port number"
  | .ipv4 => "invalid IPv4 address"
  | .ipv6 => "invalid IPv6 address"
  | .hostCharacter => "invalid domain character"
  | .relative => "relative URL without a base"
  | .relativeToOpaque => "relative URL with a cannot-be-a-base base"

end Teller
