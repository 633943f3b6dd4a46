import ThreatModel.Architecture.Basic
import ThreatModel.Chat.Message
import ThreatModel.Limits
import ThreatModel.Methodology
import ThreatModel.Prompt.Template

/-!
# Prompts

What a model is asked: everything that is known about a system, in the sections of the template, cut
to a number of characters in such a way that the description of the answer's form stays.
-/

namespace ThreatModel.Prompt

/-! ### Sections -/

/-- One line for each item, or a note that there is none. -/
def bullets (items : List String) : List Char :=
  if items.isEmpty then "- none detected".toList
  else Text.trimEnd (items.flatMap fun x => '-' :: ' ' :: (x.toList ++ ['\n']))

/-- How many files of a component are shown. -/
def shownFiles : Nat := 5

/-- The line of a component. -/
def componentLine (c : Component) : String :=
  let shown := if c.files.isEmpty then ""
    else " [files: " ++ ", ".intercalate (c.files.take shownFiles) ++ "]"
  c.name ++ " (" ++ c.kind.name ++ "): " ++ c.description ++ shown

/-- The line of a flow. -/
def flowLine (f : DataFlow) : String :=
  f.source ++ " -> " ++ f.target ++ " via " ++ f.label ++ " (" ++ f.dataType ++ ")"

/-- The line of a boundary. -/
def boundaryLine (b : TrustBoundary) : String := b.name ++ ": " ++ ", ".intercalate b.components

/-- The line of a finding. -/
def findingLine (f : Finding) : String :=
  "[" ++ f.severity.name ++ "] " ++ f.detector ++ " at " ++ f.file ++ ":" ++ toString f.line ++
    ": " ++ f.description ++ " " ++ "\x60" ++ f.snippet ++ "\x60"

/-- The text of a design document, under a heading of its own. -/
def documentText : Option String → List Char
  | some d => "\n# Design document\n".toList ++ d.toList ++ ['\n']
  | none => []

/-- The findings that are shown: the most serious ones, so many as there is room for. -/
def shownFindings (a : Analysis) (l : Limits) : List Finding :=
  a.rankedFindings.take l.promptFindingsCap

/-- The text of a section. -/
def sectionText (a : Analysis) (m : Methodology) (document : Option String) (l : Limits) :
    Section → List Char
  | .guidance => m.guidance.toList
  | .stack => bullets (a.languages ++ a.frameworks)
  | .components => bullets (a.components.map componentLine)
  | .flows => bullets (a.validFlows.map flowLine)
  | .boundaries => bullets (a.trustBoundaries.map boundaryLine)
  | .entryPoints => bullets a.entryPoints
  | .findings => bullets ((shownFindings a l).map findingLine)
  | .document => documentText document

/-! ### Length -/

/-- What stands where a prompt was cut. -/
def cutMark : List Char := "\n[... truncated ...]\n\n".toList

/-- Cuts a prompt to a number of characters. What goes is what stands in front of the last heading
of the answer's form; that part and the mark of the cut always stay. -/
def cut (max : Nat) (cs : List Char) : List Char :=
  if cs.length ≤ max then cs
  else
    let (head, tail) := (Text.splitAtLast? formatHeading.toList cs).getD (cs, [])
    -- Without room for them, the tail and the mark still stand, and nothing in front of them.
    head.take (max - tail.length - cutMark.length) ++ cutMark ++ tail

/-! ### Messages -/

/-- What a model is told to be. -/
def systemText : String :=
  "You are a senior application security engineer preparing a threat model. Use the provided " ++
    "architecture summary and static-analysis findings to enumerate realistic, specific " ++
    "threats. Respond only with a JSON array that follows the requested schema."

/-- The prompt before it is cut. -/
def fullPrompt (a : Analysis) (m : Methodology) (document : Option String) (l : Limits) :
    List Char :=
  template.fill (sectionText a m document l)

/-- The prompt. -/
def prompt (a : Analysis) (m : Methodology) (document : Option String) (l : Limits) : String :=
  String.ofList (cut l.maxPromptChars (fullPrompt a m document l))

/-- The messages that ask a model for threats. -/
def messages (a : Analysis) (m : Methodology) (document : Option String) (l : Limits) :
    List Chat.Message :=
  [.system systemText, .user (prompt a m document l)]

end ThreatModel.Prompt
