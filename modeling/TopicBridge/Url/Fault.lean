/-! # Faults of URLs

Why a text is no URL, with the wording of each cause.
-/

namespace TopicBridge

/-- Why a text is no URL. -/
inductive UrlFault
  | emptyHost
  /-- A host is no domain name. -/
  | invalidDomain
  | invalidPort
  | invalidIpv4
  | invalidIpv6
  /-- A host holds a character that no host may hold. -/
  | invalidDomainCharacter
  /-- There is no scheme. -/
  | relative
  deriving DecidableEq, Repr

/-- The wording of a fault. -/
def UrlFault.message : UrlFault → String
  | emptyHost => "empty host"
  | invalidDomain => "invalid international domain name"
  | invalidPort => "invalid port number"
  | invalidIpv4 => "invalid IPv4 address"
  | invalidIpv6 => "invalid IPv6 address"
  | invalidDomainCharacter => "invalid domain character"
  | relative => "relative URL without a base"

end TopicBridge
