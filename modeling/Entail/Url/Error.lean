/-
Entail/Url/Error.lean

What can be wrong with a URL.
-/

namespace Entail.Url

/-- Why a text is no URL, or a reference cannot be resolved. -/
inductive Error where
  /-- The host is missing where there must be one. -/
  | emptyHost
  /-- The host is no domain name. -/
  | domainName
  /-- A host that is taken as it stands holds a character that no host has. -/
  | domainCharacter
  | port
  | ipv4
  | ipv6
  /-- There is no scheme, so the text means something only against another URL. -/
  | noBase
  /-- The URL has no path that a reference could be resolved against. -/
  | rootlessBase
  deriving DecidableEq, Repr

/-- The wording of an error. -/
def Error.message : Error → String
  | .emptyHost => "empty host"
  | .domainName => "invalid international domain name"
  | .domainCharacter => "invalid domain character"
  | .port => "invalid port number"
  | .ipv4 => "invalid IPv4 address"
  | .ipv6 => "invalid IPv6 address"
  | .noBase => "relative URL without a base"
  | .rootlessBase => "relative URL with a cannot-be-a-base base"

end Entail.Url
