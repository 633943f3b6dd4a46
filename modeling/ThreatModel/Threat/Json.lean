import ThreatModel.Risk.Json
import ThreatModel.Threat.Summary

/-!
# Threats in JSON

The records of mitigations, drafts, rated threats and summaries, with the reading of those that a
report holds.
-/

namespace ThreatModel

open Json (Decoder)

/-- The record of a mitigation. -/
def Mitigation.toJson : Mitigation → Json
  | prose text => .object [("kind", .string "prose"), ("text", .string text)]
  | code file before after =>
    .object [("kind", .string "code"), ("file", .string file), ("original", .string before),
      ("fixed", .string after)]

/-- Reads a mitigation. -/
def Mitigation.ofJson? : Decoder Mitigation := fun x => do
  match ← Decoder.required "kind" .string x with
  | "prose" => return .prose (← Decoder.required "text" .string x)
  | "code" =>
    return .code (← Decoder.required "file" .string x) (← Decoder.required "original" .string x)
      (← Decoder.required "fixed" .string x)
  | _ => none

/-- The record of a draft. -/
def Draft.toJson (d : Draft) : Json :=
  .object [("title", .string d.title), ("strideCategory", .string d.category.name),
    ("threatSource", .string d.source), ("prerequisites", .string d.prerequisites),
    ("threatAction", .string d.action), ("threatImpact", .string d.consequence),
    ("impactedAssets", .strings d.assets), ("trustBoundary", .string d.boundary),
    ("assumptions", .strings d.assumptions),
    ("mitigations", .array (d.mitigations.map Mitigation.toJson)),
    ("cve", .orNull (d.cve.map .string)), ("likelihood", d.likelihood.toJson),
    ("impact", d.impact.toJson), ("suggestedSeverity", .orNull (d.suggestedSeverity.map .string))]

/-- The record of a rated threat. -/
def ThreatRecord.toJson (r : ThreatRecord) : Json :=
  .object ([("id", .string r.id), ("title", .string r.title),
    ("strideCategory", .string r.category.name), ("severity", .string r.severity.name),
    ("threatSource", .string r.source), ("prerequisites", .string r.prerequisites),
    ("threatAction", .string r.action), ("threatImpact", .string r.consequence),
    ("impactedAssets", .strings r.assets), ("trustBoundary", .string r.boundary),
    ("assumptions", .strings r.assumptions),
    ("mitigations", .array (r.mitigations.map Mitigation.toJson))] ++
    Json.optionalMember "cve" r.cve ++
    [("statement", .string r.statement), ("risk", r.risk.toJson)])

/-- Reads a rated threat. -/
def ThreatRecord.ofJson? : Decoder ThreatRecord := fun x => do
  return {
    id := ← Decoder.required "id" .string x
    title := ← Decoder.required "title" .string x
    category := ← Decoder.required "strideCategory" (.named Stride.ofName?) x
    severity := ← Decoder.required "severity" (.named Severity.ofName?) x
    source := ← Decoder.required "threatSource" .string x
    prerequisites := ← Decoder.required "prerequisites" .string x
    action := ← Decoder.required "threatAction" .string x
    consequence := ← Decoder.required "threatImpact" .string x
    assets := ← Decoder.required "impactedAssets" .strings x
    boundary := ← Decoder.required "trustBoundary" .string x
    assumptions := ← Decoder.required "assumptions" .strings x
    mitigations := ← Decoder.required "mitigations" (.list Mitigation.ofJson?) x
    cve := ← Decoder.optional "cve" .string x
    statement := ← Decoder.required "statement" .string x
    risk := ← Decoder.required "risk" Rating.ofJson? x }

namespace Summary

/-- The record of a summary. -/
def toJson (s : Summary) : Json :=
  .object [("total", .nat s.total), ("bySeverity", .ofCounts s.bySeverity),
    ("byCategory", .ofCounts s.byCategory)]

/-- Counts in the order of their names. -/
def inOrder (cs : List (String × Nat)) : List (String × Nat) :=
  cs.mergeSort fun a b => decide (a.1 ≤ b.1)

/-- Reads a summary. -/
def ofJson? : Decoder Summary := fun x => do
  return {
    total := ← Decoder.required "total" .nat x
    bySeverity := inOrder (← Decoder.required "bySeverity" .counts x)
    byCategory := inOrder (← Decoder.required "byCategory" .counts x) }

end Summary

end ThreatModel
