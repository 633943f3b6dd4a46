import ThreatModel.Source.Error
import ThreatModel.Text.Search

/-!
# Repositories

Failures of fetching a repository and the directory that it is fetched into. A failure counts as one
of authentication or as a missing repository if its code or its message says so, and as one of the
network by its class.
-/

namespace ThreatModel

namespace Git

/-- What the code of a failure says. -/
inductive Code where
  | auth
  | notFound
  | other
  deriving DecidableEq, Repr, Inhabited

/-- Where in the fetch a failure arose. -/
inductive Area where
  | transport
  | other
  deriving DecidableEq, Repr, Inhabited

/-- Names of codes that say nothing about a fetch. -/
def otherCodes : List String :=
  ["GenericError", "Exists", "Ambiguous", "BufSize", "User", "BareRepo", "UnbornBranch", "Unmerged",
   "NotFastForward", "InvalidSpec", "Conflict", "Locked", "Modified", "Certificate", "Applied",
   "Peel", "Eof", "Invalid", "Uncommitted", "Directory", "MergeConflict", "HashsumMismatch",
   "IndexDirty", "ApplyFail", "Owner", "Timeout"]

/-- Names of the areas of transport. -/
def transportAreas : List String := ["Net", "Http", "Ssl", "Ssh"]

/-- Names of the other areas. -/
def otherAreas : List String :=
  ["None", "NoMemory", "Os", "Invalid", "Reference", "Zlib", "Repository", "Config", "Regex", "Odb",
   "Index", "Object", "Tag", "Tree", "Indexer", "Submodule", "Thread", "Stash", "Checkout",
   "FetchHead", "Merge", "Filter", "Revert", "Callback", "CherryPick", "Describe", "Rebase",
   "Filesystem", "Patch", "Worktree", "Sha1"]

/-- The code of this name. -/
def Code.ofName? (s : String) : Option Code :=
  if s = "Auth" then some auth
  else if s = "NotFound" then some notFound
  else if otherCodes.contains s then some other
  else none

/-- The area of this name. -/
def Area.ofName? (s : String) : Option Area :=
  if transportAreas.contains s then some transport
  else if otherAreas.contains s then some other
  else none

/-- A failed fetch. -/
structure Failure where
  code : Code
  area : Area
  message : String
  deriving DecidableEq, Repr

/-- Words in messages of refused access. -/
def authWords : List String := ["authentication", "401", "403", "credentials"]

/-- Words in messages about something missing. -/
def missingWords : List String := ["404", "not found"]

/-- The class of a failed fetch. -/
def Failure.classify (f : Failure) (url : String) : CollectionError :=
  let lower := Text.asciiLower f.message
  if f.code = .auth || authWords.any (Text.contains lower) then .authentication url
  else if f.code = .notFound || missingWords.any (Text.contains lower) then .notFound url
  else match f.area with
    | .transport => .network url f.message
    | .other => .git f.message

end Git

/-! ### Workspaces -/

/-- The directory of one session, which goes away with it. -/
structure Workspace where
  session : String
  deriving DecidableEq, Repr

namespace Workspace

/-- The front of the name of the directory; some random characters follow. -/
def nameStart (w : Workspace) : String := s!"threatscope-{w.session}-"

/-- The number of random characters in the name of the directory. -/
def randomChars : Nat := 6

/-- The longest name of a file. -/
def maxNameBytes : Nat := 255

/-- Whether a directory of that name can be made. -/
def isPossible (w : Workspace) : Bool :=
  !w.session.toList.contains '/' && !w.session.toList.contains '\x00' &&
    decide (w.nameStart.utf8ByteSize + randomChars ≤ maxNameBytes)

/-- The name of the directory inside that a repository is fetched into. -/
def checkoutName : String := "repo"

end Workspace

end ThreatModel
