import ThreatModel.Architecture.Json
import ThreatModel.Methodology
import ThreatModel.Report.Instant
import ThreatModel.Synthesis.Origin
import ThreatModel.Threat.Json

/-!
# Reports

The result of a run, and its record in JSON.
-/

namespace ThreatModel

open Json (Decoder)

/-- The result of a run. -/
structure Report where
  /-- What names the run. -/
  session : String
  generatedAt : Instant
  /-- What was analyzed. -/
  source : String
  methodology : Methodology
  origin : Origin
  analysis : Analysis
  diagram : String
  threats : List ThreatRecord
  summary : Summary
  deriving DecidableEq, Repr

namespace Report

/-- The record of a report. -/
def toJson (r : Report) : Json :=
  .object [("sessionId", .string r.session),
    ("generatedAt", .string (String.ofList r.generatedAt.text)), ("source", .string r.source),
    ("framework", .string r.methodology.name), ("synthesis", .string r.origin.name),
    ("analysis", r.analysis.toJson), ("diagram", .string r.diagram),
    ("threats", .array (r.threats.map ThreatRecord.toJson)), ("summary", r.summary.toJson)]

/-- Reads a report. -/
def ofJson? : Decoder Report := fun x => do
  return {
    session := ← Decoder.required "sessionId" .string x
    generatedAt := ← Decoder.required "generatedAt" (.named fun s => Instant.ofText? s.toList) x
    source := ← Decoder.required "source" .string x
    methodology := ← Decoder.required "framework" (.named Methodology.ofName?) x
    origin := ← Decoder.required "synthesis" (.named Origin.ofName?) x
    analysis := ← Decoder.required "analysis" Analysis.ofJson? x
    diagram := ← Decoder.required "diagram" .string x
    threats := ← Decoder.required "threats" (.list ThreatRecord.ofJson?) x
    summary := ← Decoder.required "summary" Summary.ofJson? x }

end Report

end ThreatModel
