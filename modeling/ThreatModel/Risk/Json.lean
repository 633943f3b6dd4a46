import ThreatModel.Json.Record
import ThreatModel.Risk.Rating

/-!
# Ratings in JSON

The records of factors and ratings, with their reading. Factors are bytes.
-/

namespace ThreatModel

open Json (Decoder)

/-- The largest factor that a record may hold. -/
def maxRecordedFactor : Nat := 255

namespace Likelihood

/-- The record of likelihood factors. -/
def toJson (l : Likelihood) : Json :=
  .object [("skillLevel", .nat l.skillLevel), ("motive", .nat l.motive),
    ("opportunity", .nat l.opportunity), ("size", .nat l.size),
    ("easeOfDiscovery", .nat l.easeOfDiscovery), ("easeOfExploit", .nat l.easeOfExploit),
    ("awareness", .nat l.awareness), ("intrusionDetection", .nat l.intrusionDetection)]

/-- Reads likelihood factors. -/
def ofJson? : Decoder Likelihood := fun x => do
  let factor (key : String) := Decoder.required key (.natUpTo maxRecordedFactor) x
  return {
    skillLevel := ← factor "skillLevel"
    motive := ← factor "motive"
    opportunity := ← factor "opportunity"
    size := ← factor "size"
    easeOfDiscovery := ← factor "easeOfDiscovery"
    easeOfExploit := ← factor "easeOfExploit"
    awareness := ← factor "awareness"
    intrusionDetection := ← factor "intrusionDetection" }

end Likelihood

namespace Impact

/-- The record of impact factors. -/
def toJson (i : Impact) : Json :=
  .object [("lossOfConfidentiality", .nat i.lossOfConfidentiality),
    ("lossOfIntegrity", .nat i.lossOfIntegrity),
    ("lossOfAvailability", .nat i.lossOfAvailability),
    ("lossOfAccountability", .nat i.lossOfAccountability)]

/-- Reads impact factors. -/
def ofJson? : Decoder Impact := fun x => do
  let factor (key : String) := Decoder.required key (.natUpTo maxRecordedFactor) x
  return {
    lossOfConfidentiality := ← factor "lossOfConfidentiality"
    lossOfIntegrity := ← factor "lossOfIntegrity"
    lossOfAvailability := ← factor "lossOfAvailability"
    lossOfAccountability := ← factor "lossOfAccountability" }

end Impact

namespace Rating

/-- The record of a rating. -/
def toJson (r : Rating) : Json :=
  .object [("likelihood", r.likelihood.toJson), ("impact", r.impact.toJson),
    ("likelihoodScore", .number (.double r.likelihoodScore)),
    ("impactScore", .number (.double r.impactScore)),
    ("likelihoodLevel", .string r.likelihoodLevel.name),
    ("impactLevel", .string r.impactLevel.name),
    ("matrixRating", .string r.grade.name), ("severity", .string r.severity.name),
    ("overallRiskScore", .number (.double r.overallScore))]

/-- Reads a rating. -/
def ofJson? : Decoder Rating := fun x => do
  return {
    likelihood := ← Decoder.required "likelihood" Likelihood.ofJson? x
    impact := ← Decoder.required "impact" Impact.ofJson? x
    likelihoodScore := ← Decoder.required "likelihoodScore" .double x
    impactScore := ← Decoder.required "impactScore" .double x
    likelihoodLevel := ← Decoder.required "likelihoodLevel" (.named Level.ofName?) x
    impactLevel := ← Decoder.required "impactLevel" (.named Level.ofName?) x
    grade := ← Decoder.required "matrixRating" (.named Grade.ofName?) x
    severity := ← Decoder.required "severity" (.named Severity.ofName?) x
    overallScore := ← Decoder.required "overallRiskScore" .double x }

end Rating

end ThreatModel
