import ThreatModel.Source.Error
import ThreatModel.Text.Blank
import ThreatModel.Url.Basic

/-!
# Locators of sources

What to analyze: a directory, or a repository elsewhere. All ways to write down a repository come to
one URL, `https://host/owner/repository.git`.
-/

namespace ThreatModel

/-- Where the sources of a system are. -/
inductive Locator where
  /-- A repository elsewhere, by its normal URL. -/
  | remote (url : String)
  /-- A directory, by its path. -/
  | directory (path : String)
  deriving DecidableEq, Repr, Inhabited

namespace Locator

/-! ### URLs of repositories -/

/-- The URL meant by a locator: a path on a host that is reached as the user `git`, a URL, or a URL
without its scheme. -/
def spelledOut (cs : List Char) : Except String (List Char) :=
  match Text.afterLead? "git@".toList cs with
  | some r =>
    match Text.splitFirst? ':' r with
    | some (host, path) =>
      if host.isEmpty || path.head? = some '/' then .error "malformed ssh locator"
      else .ok ("ssh://git@".toList ++ host ++ '/' :: path)
    | none => .error "malformed ssh locator"
  | none => .ok (if Text.holds "://".toList cs then cs else "https://".toList ++ cs)

/-- Schemes that are tunnels to a host; their ports are not those of the web. -/
def tunnels : List String := ["ssh", "git+ssh"]

/-- The name of the host of a repository. -/
def hostName : Option Url.Host → Except String (List Char)
  | none => .error "missing host"
  | some (.groups _) => .error "host is not a domain"
  | some (.name text) =>
    if text.isEmpty then .error "missing host"
    else if !text.contains '.' && text ≠ "localhost".toList then .error "host is not a domain"
    else .ok (text.map Char.toLower)

/-- What a URL says of a repository, as the normal URL. -/
def ofUrl (u : Url) : Except String (List Char) := do
  if !("https" :: "http" :: tunnels).contains u.scheme then
    throw s!"unsupported scheme '{u.scheme}'"
  let host ← hostName u.host?
  let segments := u.path.filter (!·.isEmpty)
  if segments.length < 2 then throw "expected owner/repository path"
  let path := ['/'].intercalate segments
  let path := (Text.beforeTail? ".git".toList path).getD path
  let port := match u.port? with
    | some n => if tunnels.contains u.scheme then [] else ':' :: digitText n
    | none => []
  return "https://".toList ++ host ++ port ++ '/' :: path ++ ".git".toList

/-- The normal URL of a repository, or why a text does not locate one. -/
def normal (cs : List Char) : Except String (List Char) := do
  let cs := Text.trim cs
  if cs.isEmpty then throw "empty locator"
  match Url.ofText (← spelledOut cs) with
  | .ok u => ofUrl u
  | .error e => throw e.message

/-- The normal URL of a repository. -/
def normalUrl (raw : String) : Except CollectionError String :=
  match normal raw.toList with
  | .ok url => .ok (String.ofList url)
  | .error reason => .error (.invalidLocator raw reason)

/-! ### Reading -/

/-- Reads a locator. The path of a directory is one; all else has to be the URL of a repository. -/
def ofText (isDirectory : String → Bool) (raw : String) : Except CollectionError Locator :=
  let text := Text.trimmed raw
  if text ≠ "" && isDirectory text then .ok (directory text) else (normalUrl text).map remote

/-- The name of the system at a locator. -/
def display : Locator → String
  | remote url => url
  | directory path => path

/-- Whether a locator is one of a directory. -/
def isLocal : Locator → Bool
  | remote _ => false
  | directory _ => true

end Locator

end ThreatModel
