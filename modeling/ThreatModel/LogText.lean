import ThreatModel.Pattern.Search
import ThreatModel.Text.Hex

/-!
# Text in logs

Untrusted text is made safe before it is logged: control characters are written as escapes, so that
a text cannot look like several entries, and whatever looks like a secret is replaced by a mark.
-/

namespace ThreatModel.LogText

open Pattern

/-- A control character as an escape. -/
def escape (c : Char) : List Char :=
  match c with
  | '\n' => ['\\', 'n']
  | '\r' => ['\\', 'r']
  | '\t' => ['\\', 't']
  | '\x1b' => ['\\', 'e']
  | '\x00' => ['\\', '0']
  | c =>
    ['\\', 'u', '0', '0', Text.hexDigit (c.toNat / 16), Text.hexDigit (c.toNat % 16)]

/-- The text with its control characters written as escapes. -/
def sanitized (cs : List Char) : List Char :=
  cs.flatMap fun c => if Text.isControl c then escape c else [c]

/-- Letters and digits, the underscore and the hyphen. -/
def isTokenChar : CharSet := CharSet.anyCase fun c => c.isAlphanum || c == '_' || c == '-'

/-- A key with one of the usual beginnings. -/
def keyPattern : Pattern := seqs [litsAnyCase ["sk-", "key-", "token-"], atLeast 8 isTokenChar]

/-- A token in a header for authorization. -/
def bearerPattern : Pattern :=
  seqs [litAnyCase "Bearer", someBlanks, atLeast 8 (.union isTokenChar (· == '.'))]

/-- An assignment to a name for a secret. -/
def assignmentPattern : Pattern :=
  seqs [litsAnyCase ["password", "passwd", "pwd", "secret", "api_key", "apikey"], blanks,
    Pattern.among "=:", blanks, atLeast 1 fun c => !Text.isBlank c]

/-- The id of an access key. -/
def accessKeyPattern : Pattern := seqs [lit "AKIA", exactly 16 fun c => c.isDigit || c.isUpper]

/-- The patterns of secrets, in the order in which they are replaced. -/
def secretPatterns : List Pattern :=
  [keyPattern, bearerPattern, assignmentPattern, accessKeyPattern]

/-- What stands in place of a secret. -/
def mark : List Char := "[REDACTED]".toList

/-- The text with its secrets replaced, one pattern after another. -/
def redacted (cs : List Char) : List Char :=
  secretPatterns.foldl (fun cs p => p.replaceAll mark cs) cs

/-- The text as it may be logged. -/
def safe (cs : List Char) : List Char := redacted (sanitized cs)

/-- The least serious entries that are logged. -/
def threshold (verbose : Bool) : String := if verbose then "info" else "warn"

end ThreatModel.LogText
