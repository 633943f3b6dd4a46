/-!
# Failures of collecting sources

Why the sources of a system cannot be collected. `CollectionError.ofGit` classes a failed fetch by
its code, its class and the words in its message.
-/

namespace ThreatModel

/-- Why sources cannot be collected. -/
inductive CollectionError where
  | invalidLocator (locator reason : String)
  | notFound (what : String)
  | authentication (what : String)
  | network (url message : String)
  | git (message : String)
  | io (path message : String)
  deriving DecidableEq, Repr, Inhabited

/-- The text of an error. -/
def CollectionError.message : CollectionError → String
  | invalidLocator locator reason => s!"Invalid source locator '{locator}': {reason}"
  | notFound what => s!"Repository not found: {what}"
  | authentication what => s!"Authentication required for {what}"
  | network url message => s!"Network failure while fetching {url}: {message}"
  | git message => s!"Git error: {message}"
  | io path message => s!"I/O error at {path}: {message}"

end ThreatModel
