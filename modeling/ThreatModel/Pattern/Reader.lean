import ThreatModel.Pattern.Basic

/-!
# Reading patterns

Patterns as text, for detectors that come from outside. Characters stand for themselves, a
backslash takes a special character as it is, a point is any character of a line, `^` and `$` are
the ends of the text, `*`, `+` and `?` repeat one character, and a bar separates alternatives.
Groups, classes and counted repetitions are refused.
-/

namespace ThreatModel.Pattern

/-- A token of a pattern text. -/
inductive Token where
  | set (s : CharSet)
  | place (p : Pattern)
  | bar
  /-- A sign of repetition. -/
  | sign (c : Char)

/-- Characters that are refused unless a backslash stands in front of them. -/
def isRefused (c : Char) : Bool := c == '(' || c == ')' || c == '[' || c == '\x7b' || c == '\\'

/-- Whether a backslash may stand in front of a character. -/
def isEscapable (c : Char) : Bool := c.toNat < 128 && !c.isAlphanum && c != '<' && c != '>'

/-- The token of a character without a backslash. -/
def token (c : Char) : Token :=
  match c with
  | '|' => .bar
  | '^' => .place textStart
  | '$' => .place textEnd
  | '.' => .set (· != '\n')
  | '*' | '+' | '?' => .sign c
  | c => .set (· == c)

/-- The tokens of a pattern text. -/
def tokens : List Char → Option (List Token)
  | [] => some []
  | '\\' :: c :: r => if isEscapable c then (tokens r).map (.set (· == c) :: ·) else none
  | c :: r => if isRefused c then none else (tokens r).map (token c :: ·)

/-- A repeated character. -/
def repeated (s : CharSet) : Char → Pattern
  | '*' => many s
  | '+' => atLeast 1 s
  | _ => opt (one s)

/-- Adds a pattern to the front of the first alternative. -/
def consFirst (p : Pattern) : List (List Pattern) → List (List Pattern)
  | [] => [[p]]
  | ps :: pss => (p :: ps) :: pss

/-- The alternatives in a list of tokens; a sign without a character in front of it is refused. -/
def alternatives : List Token → Option (List (List Pattern))
  | [] => some [[]]
  | .bar :: r => (alternatives r).map ([] :: ·)
  | .set s :: .sign c :: r => (alternatives r).map (consFirst (repeated s c))
  | .set s :: r => (alternatives r).map (consFirst (one s))
  | .place p :: r => (alternatives r).map (consFirst p)
  | .sign _ :: _ => none

/-- The pattern of a text. -/
def ofText? (s : String) : Option Pattern := do
  return choice ((← alternatives (← tokens s.toList)).map seqs)

end ThreatModel.Pattern
