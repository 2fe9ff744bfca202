/-!
# Faults of addresses

Why a text is no address. The wording stands in `Url.Error.message` only.
-/

namespace Storyboard.Url

/-- Why a text is no address. -/
inductive Error
  /-- There is no host. -/
  | emptyHost
  /-- The host is no name in any language. -/
  | badInternationalName
  /-- The port is no number of 16 bits. -/
  | badPort
  /-- The host is written like an address of version 4 and is none. -/
  | badIpv4
  /-- The host is written like an address of version 6 and is none. -/
  | badIpv6
  /-- The host has a character that no host may have. -/
  | badHostCharacter
  /-- There is no scheme, and nothing that the address could be relative to. -/
  | relativeWithoutBase
  /-- The address is too long. -/
  | overflow
deriving DecidableEq, Repr

namespace Error

/-- The wording of a fault. -/
def message : Error → String
  | .emptyHost => "empty host"
  | .badInternationalName => "invalid international domain name"
  | .badPort => "invalid port number"
  | .badIpv4 => "invalid IPv4 address"
  | .badIpv6 => "invalid IPv6 address"
  | .badHostCharacter => "invalid domain character"
  | .relativeWithoutBase => "relative URL without a base"
  | .overflow => "URLs more than 4 GB are not supported"

end Error

end Storyboard.Url
