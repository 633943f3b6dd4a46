import ThreatModel.Json.Printer
import ThreatModel.Report.Basic
import ThreatModel.Text.Lower
import ThreatModel.Text.Style

/-!
# Rendering reports

A report as JSON for programs, or as a short text for people, in colors where the terminal has them.
-/

namespace ThreatModel

open Text (Style)

/-- How a report is written. -/
inductive Format where
  | text
  | json
  deriving DecidableEq, Repr, Inhabited

namespace Format

/-- The name on the command line. -/
def name : Format → String
  | text => "text"
  | json => "json"

/-- All formats. -/
def all : List Format := [text, json]

/-- The format of this name. -/
def ofName? (s : String) : Option Format := all.find? fun f => f.name == s

end Format

/-- The style of a severity. -/
def Severity.style : Severity → Style
  | critical => .boldBrightRed
  | high => .red
  | medium => .yellow
  | low => .green

/-- A mitigation in one line. -/
def Mitigation.brief : Mitigation → String
  | prose text => text
  | code file _ after => file ++ ": " ++ after

namespace Report

variable (color : Bool)

/-- A text in a style, where colors are wanted. -/
def styled (s : Style) (text : String) : String := if color then s.paint text else text

/-- A severity in brackets. -/
def severityLabel (s : Severity) : String := styled color s.style ("[" ++ s.name ++ "]")

/-- A score with two places. -/
def scoreText (x : Binary) : String := String.ofList (x.fixed 2)

/-- The lines of a threat. -/
def threatLines (t : ThreatRecord) : List String :=
  let head := " ".intercalate [severityLabel color t.severity, styled color .dimmed t.id,
    styled color .bold t.title, styled color .cyan ("(" ++ t.category.name ++ ")")]
  let risk := styled color .dimmed "risk:" ++ " likelihood " ++ scoreText t.risk.likelihoodScore ++
    " (" ++ t.risk.likelihoodLevel.name ++ ") x impact " ++ scoreText t.risk.impactScore ++
    " (" ++ t.risk.impactLevel.name ++ ") = " ++ scoreText t.risk.overallScore
  let mitigation := t.mitigations.head?.map fun m =>
    "    " ++ styled color .dimmed "mitigate:" ++ " " ++ m.brief
  let cve := t.cve.map fun c => "    " ++ styled color .dimmed "cve:" ++ " " ++ c
  [head, "    " ++ t.statement, "    " ++ risk] ++ mitigation.toList ++ cve.toList ++ [""]

/-- The line that names the run, in lower case. -/
def sessionLine (r : Report) : String :=
  let line := "session " ++ r.session ++ " | synthesis: " ++ r.origin.name ++ " | framework: " ++
    r.methodology.name
  styled color .dimmed (String.ofList (Text.lower line.toList))

/-- A line with a list, unless it is empty. -/
def listLine (title : String) (items : List String) : List String :=
  if items.isEmpty then [] else [title ++ ", ".intercalate items]

/-- The line that counts what the analysis holds. -/
def sizeLine (a : Analysis) : String :=
  let count (n : Nat) := styled color .cyan (toString n)
  "Components: " ++ count a.components.length ++ "  Flows: " ++ count a.validFlows.length ++
    "  Findings: " ++ count a.findings.length ++
    (if a.truncated then styled color .yellow " (file budget reached)" else "")

/-- The line that counts the threats. -/
def countLine (s : Summary) : String :=
  let counts := Severity.all.map fun v =>
    severityLabel color v ++ " " ++ toString ((s.bySeverity.lookup v.name).getD 0)
  "Threats: " ++ toString s.total ++ "  " ++ "  ".intercalate counts

/-- The lines of a report. -/
def lines (r : Report) : List String :=
  [styled color .brightBlue "Threat model for" ++ " " ++ styled color .bold r.source,
    sessionLine color r] ++
    listLine "Languages:  " r.analysis.languages ++
    listLine "Frameworks: " r.analysis.frameworks ++
    [sizeLine color r.analysis, countLine color r.summary, ""] ++
    (if r.threats.isEmpty then [styled color .green "No threats identified."] else []) ++
    r.threats.flatMap (threatLines color)

/-- A report as text. -/
def text (r : Report) : String := String.join ((lines color r).map (· ++ "\n"))

/-- A report in a format. -/
def render (f : Format) (r : Report) : String :=
  match f with
  | .text => text color r
  | .json => String.ofList (Json.pretty r.toJson)

end Report

end ThreatModel
