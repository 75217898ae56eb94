/-! The errors of the URL parser. -/

namespace AccessProbe

/-- Why a string is no URL. -/
inductive Url.ParseError where
  | emptyHost
  /-- The port is no number below 2^16. -/
  | invalidPort
  | invalidDomain
  /-- The host ends in a number and is no IPv4 address. -/
  | invalidIpv4
  | invalidIpv6
  /-- An opaque host contains a forbidden character. -/
  | invalidDomainCharacter
  /-- There is neither a scheme nor a base. -/
  | relativeWithoutBase
  /-- The base has an opaque path. -/
  | relativeWithPlainBase
  deriving DecidableEq, Repr

def Url.ParseError.message : Url.ParseError → String
  | .emptyHost => "empty host"
  | .invalidPort => "invalid port number"
  | .invalidDomain => "invalid international domain name"
  | .invalidIpv4 => "invalid IPv4 address"
  | .invalidIpv6 => "invalid IPv6 address"
  | .invalidDomainCharacter => "invalid domain character"
  | .relativeWithoutBase => "relative URL without a base"
  | .relativeWithPlainBase => "relative URL with a cannot-be-a-base base"

end AccessProbe
