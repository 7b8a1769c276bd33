/-! Reasons why a text is not an absolute URL. -/

namespace DiscordRest.Url

/-- A reason why a text is not an absolute URL. -/
inductive Fault where
  /-- There is no scheme. -/
  | noScheme
  /-- A host is needed and missing. -/
  | emptyHost
  /-- The port is not a number below 65536. -/
  | invalidPort
  /-- The host is between brackets, but no address of 128 bits. -/
  | invalidIpv6
  /-- The host ends in a number, but is no address of 32 bits. -/
  | invalidIpv4
  /-- The host of a special scheme has a character that no domain has. -/
  | invalidDomain
  /-- The host of another scheme has a character that no host has. -/
  | invalidHost
  deriving DecidableEq, Repr

/-- The words for a fault. -/
def Fault.message : Fault → String
  | noScheme => "relative URL without a base"
  | emptyHost => "empty host"
  | invalidPort => "invalid port number"
  | invalidIpv6 => "invalid IPv6 address"
  | invalidIpv4 => "invalid IPv4 address"
  | invalidDomain => "invalid international domain name"
  | invalidHost => "invalid domain character"

end DiscordRest.Url
