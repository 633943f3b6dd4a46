import ThreatModel.Threat.Record

/-!
# Summary of threats

How many threats there are, of each severity and of each category. Counts stand under names in
alphabetical order; every severity is listed, but only those categories that occur.
-/

namespace ThreatModel

/-- Counts of threats. -/
structure Summary where
  total : Nat
  /-- Counts by the name of the severity, in the order of the names. -/
  bySeverity : List (String × Nat)
  /-- Counts by the name of the category, in the order of the names. -/
  byCategory : List (String × Nat)
  deriving DecidableEq, Repr, Inhabited

namespace Summary

/-- The severities in the order of their names. -/
def severities : List Severity := [.critical, .high, .low, .medium]

/-- The categories in the order of their names. -/
def categories : List Stride :=
  [.denialOfService, .elevationOfPrivilege, .informationDisclosure, .repudiation, .spoofing,
    .tampering]

/-- The summary of threats. -/
def ofRecords (rs : List ThreatRecord) : Summary where
  total := rs.length
  bySeverity := severities.map fun s => (s.name, rs.countP fun r => r.severity == s)
  byCategory :=
    (categories.map fun c => (c.name, rs.countP fun r => r.category == c)).filter fun p => p.2 != 0

end Summary

end ThreatModel
