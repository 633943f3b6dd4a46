import ThreatModel.Text.Blank

/-!
# Labels in diagrams

A label must not hold characters that mean something in the notation of flowcharts. `label` takes
them out: they, control characters and blanks become single spaces between the words that are left.
-/

namespace ThreatModel.Diagram

/-- Characters with a meaning in flowcharts. -/
def reserved : List Char :=
  ['"', '\'', '`', '[', ']', '\x7b', '\x7d', '(', ')', '<', '>', '#', '|', ';']

/-- Whether a label may not hold a character. -/
def isReserved (c : Char) : Bool := reserved.contains c || Text.isControl c

/-- The label for a text without words. -/
def unnamed : String := "unnamed"

/-- The words of a text; characters that a label may not hold separate words. -/
def labelWords (s : String) : List (List Char) :=
  Text.words (s.toList.map fun c => if isReserved c then ' ' else c)

/-- The label for a text. -/
def label (s : String) : String :=
  match labelWords s with
  | [] => unnamed
  | ws => " ".intercalate (ws.map String.ofList)

end ThreatModel.Diagram
