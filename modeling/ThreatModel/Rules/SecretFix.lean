import ThreatModel.Pattern.Search
import ThreatModel.Scan.Detector

/-!
# Fixes for secrets in code

A long literal that is assigned to a key is replaced by a look-up in the environment, in the
language of the file; everything around the literal stays as it is.
-/

namespace ThreatModel

open Text (Cursor)
open Pattern

/-! ### Names of environment variables -/

/-- The name of an environment variable for a key. Hyphens, underscores and points become
underscores, one more goes in front of a capital letter behind a small letter or a digit, and all
letters become capital. -/
def envNameFrom (afterLower : Bool) : List Char → List Char
  | [] => []
  | c :: r =>
    if c = '-' || c = '_' || c = '.' then '_' :: envNameFrom false r
    else
      let name := c.toUpper :: envNameFrom (c.isLower || c.isDigit) r
      if c.isUpper && afterLower then '_' :: name else name

/-- The name of an environment variable for a key. -/
def envName (key : String) : String := String.ofList (envNameFrom false key.toList)

/-- The expression that reads an environment variable in a file. -/
def envLookup (file name : String) : String :=
  let ext := (Text.splitLast? '.' file.toList).map fun p => Text.asciiLower (String.ofList p.2)
  match ext with
  | some "js" | some "jsx" | some "mjs" | some "cjs" | some "ts" | some "tsx" =>
    "process.env." ++ name
  | some "py" => "os.environ[\"" ++ name ++ "\"]"
  | some "rb" => "ENV[\"" ++ name ++ "\"]"
  | some "go" => "os.Getenv(\"" ++ name ++ "\")"
  | some "java" | some "kt" => "System.getenv(\"" ++ name ++ "\")"
  | some "php" => "getenv('" ++ name ++ "')"
  | some "rs" => "std::env::var(\"" ++ name ++ "\")?"
  | some "cs" => "Environment.GetEnvironmentVariable(\"" ++ name ++ "\")"
  | _ => "\"$\x7b" ++ name ++ "\x7d\""

/-! ### Assignments -/

/-- A key: a letter of ASCII or an underscore, and then characters of words and hyphens. -/
def keyWord : Pattern :=
  seq (one fun c => c.isAlpha || c == '_') (many Detector.wordOrHyphen)

/-- What stands between a key and its value: the quote behind the key, and a sign of assignment. -/
def keySeparator : Pattern := seqs [optQuote, blanks, Pattern.among ":=", blanks]

/-- An assignment of a long literal to a key: the places in front of it, of the key, of what
separates them, and of the literal, and the place behind it. -/
structure Assignment where
  start : Cursor
  key : Cursor
  separator : Cursor
  literal : Cursor
  last : Cursor

/-- The assignment at a place. -/
def assignmentAt? (k : Cursor) : Option Assignment :=
  match runEach [optQuote, keyWord, keySeparator, Detector.longLiteral] k with
  | some [key, separator, literal, last] => some ⟨k, key, separator, literal, last⟩
  | _ => none

/-- The first assignment in a text. -/
def assignment? (cs : List Char) : Option Assignment :=
  (firstFrom assignmentAt? (.start cs)).map (·.2)

/-- A line of code with the literal of its first assignment replaced. The line in front of the
assignment, its quote, key and separator and the line behind it are put together again. -/
def secretFix? (snippet file : String) : Option String :=
  (assignment? snippet.toList).map fun a =>
    let quote := String.ofList (a.start.upTo a.key)
    let key := String.ofList (a.key.upTo a.separator)
    let separator := String.ofList (a.separator.upTo a.literal)
    let replacement := quote ++ key ++ separator ++ envLookup file (envName key)
    String.ofList a.start.front ++ replacement ++ String.ofList a.last.after

end ThreatModel
