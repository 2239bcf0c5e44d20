/-!
# Errors in URLs
-/

namespace RoutineAtlas

/-- Why a text is no URL. -/
inductive UrlError where
  | relative
  | emptyHost
  | invalidPort
  | invalidHost
  /-- The host is no name that can be written in ASCII. -/
  | invalidDomain
  | invalidIpv4
  | invalidIpv6
deriving DecidableEq, Repr

/-- What a report says about a text that is no URL. -/
def UrlError.message : UrlError → String
  | relative => "relative URL without a base"
  | emptyHost => "empty host"
  | invalidPort => "invalid port number"
  | invalidHost => "invalid domain character"
  | invalidDomain => "invalid international domain name"
  | invalidIpv4 => "invalid IPv4 address"
  | invalidIpv6 => "invalid IPv6 address"

end RoutineAtlas
