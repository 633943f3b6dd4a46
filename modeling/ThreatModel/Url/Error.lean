/-!
# Malformed URLs
-/

namespace ThreatModel

/-- Why a text is no URL. -/
inductive UrlError where
  | noScheme
  | emptyHost
  | invalidPort
  | invalidName
  | invalidAddress
  | invalidGroupAddress
  | invalidCharacter
  deriving DecidableEq, Repr, Inhabited

/-- The text of an error. -/
def UrlError.message : UrlError → String
  | noScheme => "relative URL without a base"
  | emptyHost => "empty host"
  | invalidPort => "invalid port number"
  | invalidName => "invalid international domain name"
  | invalidAddress => "invalid IPv4 address"
  | invalidGroupAddress => "invalid IPv6 address"
  | invalidCharacter => "invalid domain character"

end ThreatModel
