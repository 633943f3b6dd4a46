import ThreatModel.Architecture.Basic
import ThreatModel.Json.Record

/-!
# Architectures in JSON

The records of components, flows, boundaries, findings and whole analyses, with their reading.
-/

namespace ThreatModel

open Json (Decoder)

/-- The record of a component. -/
def Component.toJson (c : Component) : Json :=
  .object [("name", .string c.name), ("type", .string c.kind.name), ("files", .strings c.files),
    ("description", .string c.description)]

/-- Reads a component. -/
def Component.ofJson? : Decoder Component := fun x => do
  return {
    name := ← Decoder.required "name" .string x
    kind := ← Decoder.required "type" (.named ComponentKind.ofName?) x
    files := ← Decoder.required "files" .strings x
    description := ← Decoder.required "description" .string x }

/-- The record of a flow. -/
def DataFlow.toJson (f : DataFlow) : Json :=
  .object ([("from", .string f.source), ("to", .string f.target)] ++
    Json.optionalMember "protocol" f.protocol ++ [("dataType", .string f.dataType)])

/-- Reads a flow. -/
def DataFlow.ofJson? : Decoder DataFlow := fun x => do
  return {
    source := ← Decoder.required "from" .string x
    target := ← Decoder.required "to" .string x
    protocol := ← Decoder.optional "protocol" .string x
    dataType := ← Decoder.required "dataType" .string x }

/-- The record of a boundary. -/
def TrustBoundary.toJson (b : TrustBoundary) : Json :=
  .object [("name", .string b.name), ("components", .strings b.components)]

/-- Reads a boundary. -/
def TrustBoundary.ofJson? : Decoder TrustBoundary := fun x => do
  return {
    name := ← Decoder.required "name" .string x
    components := ← Decoder.required "components" .strings x }

/-- The record of a finding. -/
def Finding.toJson (f : Finding) : Json :=
  .object [("file", .string f.file), ("line", .nat f.line), ("detector", .string f.detector),
    ("snippet", .string f.snippet), ("severity", .string f.severity.name),
    ("description", .string f.description)]

/-- Reads a finding. -/
def Finding.ofJson? : Decoder Finding := fun x => do
  return {
    file := ← Decoder.required "file" .string x
    line := ← Decoder.required "line" .nat x
    detector := ← Decoder.required "detector" .string x
    snippet := ← Decoder.required "snippet" .string x
    severity := ← Decoder.required "severity" (.named Severity.ofName?) x
    description := ← Decoder.required "description" .string x }

namespace Analysis

/-- The record of an analysis. -/
def toJson (a : Analysis) : Json :=
  .object [("languages", .strings a.languages), ("frameworks", .strings a.frameworks),
    ("components", .array (a.components.map Component.toJson)),
    ("dataFlows", .array (a.dataFlows.map DataFlow.toJson)),
    ("trustBoundaries", .array (a.trustBoundaries.map TrustBoundary.toJson)),
    ("securityFindings", .array (a.findings.map Finding.toJson)),
    ("fileTree", .strings a.fileTree), ("entryPoints", .strings a.entryPoints),
    ("truncated", .bool a.truncated)]

/-- Reads an analysis. -/
def ofJson? : Decoder Analysis := fun x => do
  return {
    languages := ← Decoder.required "languages" .strings x
    frameworks := ← Decoder.required "frameworks" .strings x
    components := ← Decoder.required "components" (.list Component.ofJson?) x
    dataFlows := ← Decoder.required "dataFlows" (.list DataFlow.ofJson?) x
    trustBoundaries := ← Decoder.required "trustBoundaries" (.list TrustBoundary.ofJson?) x
    findings := ← Decoder.required "securityFindings" (.list Finding.ofJson?) x
    fileTree := ← Decoder.required "fileTree" .strings x
    entryPoints := ← Decoder.required "entryPoints" .strings x
    truncated := ← Decoder.withDefault "truncated" false .bool x }

end Analysis

end ThreatModel
