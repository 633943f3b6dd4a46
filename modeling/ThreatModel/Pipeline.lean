import ThreatModel.Architecture.Inference
import ThreatModel.Diagram.Flowchart
import ThreatModel.Report.Basic
import ThreatModel.Scan.Scanner
import ThreatModel.Synthesis.Synthesizer
import ThreatModel.Threat.Register

/-!
# From sources to reports

A report is made of what was collected in four steps: scanning, extracting the architecture, drawing
it, and finding threats.
-/

namespace ThreatModel

/-- What every run needs to know. -/
structure Session where
  /-- What names the run. -/
  id : String
  startedAt : Instant
  limits : Limits
  deriving DecidableEq, Repr

/-- The architecture and the findings of a set of files. -/
def analyze (s : SourceSet) (l : Limits) : Analysis :=
  extract s (scan Detector.registry l s.files).findings l

/-- The architecture and the findings of a document. -/
def analyzeDocument (name text : String) (l : Limits) : Analysis :=
  extractDocument name text (scanText Detector.registry l name text)

namespace Session

variable (t : Session)

/-- The report on an analysis. -/
def report (source : String) (a : Analysis) (m : Methodology) (document : Option String)
    (y : Synthesizer) : Run Report := do
  let drafts ← Run.within "Threat synthesis failed" (y.drafts a m document t.limits)
  let threats := register drafts
  return {
    session := t.id
    generatedAt := t.startedAt
    source := source
    methodology := m
    origin := y.origin
    analysis := a
    diagram := Diagram.render a
    threats := threats
    summary := .ofRecords threats }

/-- The report on a set of files. -/
def sourceReport (source : String) (s : SourceSet) (m : Methodology) (y : Synthesizer) :
    Run Report :=
  t.report source (analyze s t.limits) m none y

/-- The report on a document. -/
def documentReport (name text : String) (m : Methodology) (y : Synthesizer) : Run Report :=
  t.report name (analyzeDocument name text t.limits) m (some text) y

end Session

end ThreatModel
