/-!
# Why a text is not a URL
-/

namespace Telemetry

/-- Why a text is not a URL. -/
inductive UrlError where
  | emptyHost
  | invalidDomain
  | invalidPort
  | invalidIpv4
  | invalidIpv6
  | invalidDomainCharacter
  | relativeWithoutBase
  deriving DecidableEq, Repr

/-- The text of a cause. -/
def UrlError.message : UrlError → String
  | emptyHost => "empty host"
  | invalidDomain => "invalid international domain name"
  | invalidPort => "invalid port number"
  | invalidIpv4 => "invalid IPv4 address"
  | invalidIpv6 => "invalid IPv6 address"
  | invalidDomainCharacter => "invalid domain character"
  | relativeWithoutBase => "relative URL without a base"

end Telemetry
