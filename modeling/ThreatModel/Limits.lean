/-!
# Limits

Budgets that bound every run. Reaching one is never an error.
-/

namespace ThreatModel

/-- Budgets that bound a run. -/
structure Limits where
  /-- Larger files are left out. -/
  maxFileBytes : Nat := 51200
  maxFiles : Nat := 500
  maxFindingsPerFile : Nat := 10
  /-- The length of a snippet. -/
  snippetChars : Nat := 200
  /-- The number of paths in the file tree of an analysis. -/
  fileTreeCap : Nat := 200
  /-- The number of findings in a prompt. -/
  promptFindingsCap : Nat := 25
  entryPointsCap : Nat := 20
  /-- How many commits of a repository are fetched; all of them for zero. -/
  cloneDepth : Nat := 1
  maxPromptChars : Nat := 48000
  deriving DecidableEq, Repr, Inhabited

end ThreatModel
