import ThreatModel.Url.Host
import ThreatModel.Url.Path

/-!
# URLs

What of a URL says where something is: its scheme, its host and port, and its path. What stands in
front of the host, and the query and the fragment behind the path, are read and left out.

* Schemes of the web (`Scheme.isWeb`) may have any number of slashes of either kind in front of the
  host, and have to have a host.
* A port that is the usual one of the scheme is left out.
-/

namespace ThreatModel

/-- A URL. -/
structure Url where
  /-- The scheme in lower case. -/
  scheme : String
  host? : Option Url.Host
  port? : Option Nat
  /-- The segments of the path behind its first slash. -/
  path : List (List Char)
  deriving DecidableEq, Repr, Inhabited

namespace Url

/-! ### Schemes -/

/-- The usual ports of the schemes of the web that name a host. -/
def usualPorts : List (String × Nat) :=
  [("http", 80), ("https", 443), ("ws", 80), ("wss", 443), ("ftp", 21)]

/-- Whether a scheme is one of the web that names a host. -/
def isWeb (scheme : String) : Bool := (usualPorts.lookup scheme).isSome

/-- Whether a character may stand in a scheme behind its first letter. -/
def isSchemeChar (c : Char) : Bool := c.isAlphanum || c == '+' || c == '-' || c == '.'

/-- The scheme in front of the first colon, and what stands behind that. -/
def scheme? (cs : List Char) : Option (String × List Char) :=
  match Text.splitFirst? ':' cs with
  | none => none
  | some (scheme, r) =>
    if scheme.head?.any Char.isAlpha && scheme.all isSchemeChar then
      some (String.ofList (scheme.map Char.toLower), r)
    else none

/-! ### Hosts and ports -/

/-- Whether a character ends the part of a URL with its host. -/
def endsHost (web : Bool) (c : Char) : Bool :=
  c == '/' || c == '?' || c == '#' || (web && c == '\\')

/-- Splits a text in front of the first colon outside brackets. -/
def splitPort (inside : Bool) : List Char → List Char × List Char
  | [] => ([], [])
  | c :: r =>
    if c = ':' && !inside then ([], c :: r)
    else
      let (a, b) := splitPort (c = '[' || (inside && c != ']')) r
      (c :: a, b)

/-- The largest port. -/
def maxPort : Nat := 65535

/-- The port at the front of a text, and what stands behind it. -/
def port (usual : Option Nat) (cs : List Char) : Except UrlError (Option Nat × List Char) :=
  let digits := cs.takeWhile Char.isDigit
  let r := cs.dropWhile Char.isDigit
  if maxPort < ofDigits digits || !r.head?.all (endsHost true) then .error .invalidPort
  else if digits.isEmpty || usual = some (ofDigits digits) then .ok (none, r)
  else .ok (some (ofDigits digits), r)

/-- The path at the front of a text, up to the query or the fragment. -/
def pathOf (web : Bool) (cs : List Char) : List (List Char) :=
  let text := cs.takeWhile fun c => c != '?' && c != '#'
  let text := if web then text.map fun c => if c = '\\' then '/' else c else text
  match text with
  | [] => if web then [[]] else []
  | '/' :: r => Path.ofText r
  | r => Path.ofText r

/-- The URL of a scheme whose slashes have been read. -/
def authority (scheme : String) (cs : List Char) : Except UrlError Url := do
  let web := isWeb scheme
  let front := cs.takeWhile (!endsHost web ·)
  let back := cs.dropWhile (!endsHost web ·)
  let (user, place) := match Text.splitLast? '@' front with
    | some (user, place) => (some user, place)
    | none => (none, front)
  -- An `@` with nothing on either side of it is no host, but only in front of a path.
  if user = some [] && place.isEmpty && !back.isEmpty then throw .emptyHost
  let (name, r) := splitPort false place
  -- Other schemes may do without a host, but then without a port and a user too.
  if web && name.isEmpty then throw .emptyHost
  let host ← if web then Host.ofWeb name else Host.ofOther name
  if host.isEmpty && !r.isEmpty then throw .emptyHost
  let (port?, r) ← match r with
    | [] => pure (none, back)
    -- What follows the port has to be looked at too: only the end of the host may follow it.
    | _ :: r => port (usualPorts.lookup scheme) (r ++ back)
  if host.isEmpty && user.any (fun u => !u.isEmpty && u != [':']) then throw .emptyHost
  return ⟨scheme, if host.isEmpty then none else some host, port?, pathOf web r⟩

/-! ### Reading -/

/-- Whether a character at either end of a text does not belong to a URL. -/
def isMargin (c : Char) : Bool := c.toNat ≤ 0x20

/-- Whether a character is passed over wherever it stands. -/
def isSkipped (c : Char) : Bool := c == '\t' || c == '\n' || c == '\r'

/-- The text of a URL, without what does not belong to it. -/
def cleaned (cs : List Char) : List Char :=
  ((((cs.dropWhile isMargin).reverse.dropWhile isMargin).reverse).filter (!isSkipped ·))

/-- Whether a character is a slash of either kind. -/
def isSlash (c : Char) : Bool := c == '/' || c == '\\'

/-- The URL of a file. Its host may not be malformed, and a drive is no host. -/
def file (cs : List Char) : Except UrlError Url := do
  match cs with
  | a :: b :: r =>
    if isSlash a && isSlash b then
      let name := r.takeWhile (!endsHost true ·)
      let back := r.dropWhile (!endsHost true ·)
      if name.isEmpty || Path.isDrive name then return ⟨"file", none, none, pathOf true r⟩
      let host ← Host.ofWeb name
      return ⟨"file", if host = .name "localhost".toList then none else some host, none,
        pathOf true back⟩
  | _ => pure ()
  return ⟨"file", none, none, pathOf true cs⟩

/-- Reads a URL. -/
def ofText (text : List Char) : Except UrlError Url :=
  match scheme? (cleaned text) with
  | none => .error .noScheme
  | some (scheme, r) =>
    if scheme = "file" then file r
    else if isWeb scheme then authority scheme (r.dropWhile isSlash)
    else match r with
      | '/' :: '/' :: r => authority scheme r
      | '/' :: r => .ok ⟨scheme, none, none, pathOf false ('/' :: r)⟩
      | _ => .ok ⟨scheme, none, none, []⟩

end Url

end ThreatModel
