import ThreatModel.Idna.Name
import ThreatModel.Url.Address
import ThreatModel.Url.Error
import ThreatModel.Url.Percent

/-!
# Hosts

The host of a URL. Schemes of the web name a domain or an address; other schemes name whatever they
like, and only have it encoded.
-/

namespace ThreatModel.Url

/-- A host. -/
inductive Host where
  /-- A domain, an address of four bytes or the host of another scheme. -/
  | name (text : List Char)
  /-- An address of eight groups, as it stands between the brackets. -/
  | groups (text : List Char)
  deriving DecidableEq, Repr, Inhabited

namespace Host

/-- An address in brackets, if a bracket is at its front. -/
def ofBrackets? (cs : List Char) : Option (Except UrlError Host) :=
  match cs with
  | '[' :: r =>
    match Text.beforeTail? [']'] r with
    | none => some (.error .invalidGroupAddress)
    | some inside =>
      some (if isGroupAddress inside then .ok (groups inside) else .error .invalidGroupAddress)
  | _ => none

/-- The host of a domain name in ASCII. A name that ends in a number has to be an address. -/
def ofDomain (domain : List Char) : Except UrlError Host :=
  if domain.isEmpty then .error .emptyHost
  else if endsInNumber domain then
    match address? domain with
    | some n => .ok (name (addressText n))
    | none => .error .invalidAddress
  else .ok (name domain)

/-- The host of a scheme of the web. -/
def ofWeb (cs : List Char) : Except UrlError Host :=
  (ofBrackets? cs).getD <|
    match (Percent.decode? cs).bind Idna.toAscii? with
    | none => .error .invalidName
    | some domain => ofDomain domain

/-- Whether the host of another scheme may not hold a character. -/
def isForbidden (c : Char) : Bool := "\u0000\t\n\r #/:<>?@[\\]^|".toList.contains c

/-- Whether a character of a host is not encoded. -/
def isKept (c : Char) : Bool := 0x20 ≤ c.toNat && c.toNat < 0x7F

/-- The host of another scheme. -/
def ofOther (cs : List Char) : Except UrlError Host :=
  (ofBrackets? cs).getD <|
    if cs.any isForbidden then .error .invalidCharacter
    else .ok (name (Percent.encode isKept cs))

/-- Whether there is nothing in a host. -/
def isEmpty : Host → Bool
  | name text => text.isEmpty
  | groups _ => false

end Host

end ThreatModel.Url
