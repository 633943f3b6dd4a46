import ThreatModel.Rules.Profile
import ThreatModel.Rules.SecretFix
import ThreatModel.Threat.Draft

/-!
# Threats by rules

Drafts of threats that follow from an analysis without any model: one for every finding, and a few
for what the architecture lacks.
-/

namespace ThreatModel

variable (a : Analysis)

/-! ### Findings -/

/-- The name of the first component that lists a file. -/
def owner? (file : String) : Option String :=
  (a.components.find? fun c => c.files.contains file).map (·.name)

/-- The boundary of a profile; that of the infrastructure counts only if the analysis has one. -/
def profileBoundary (p : Profile) : String :=
  if p.boundary == infrastructureBoundary &&
      !a.trustBoundaries.any (·.name == infrastructureBoundary) then
    internalBoundary
  else p.boundary

/-- The change of code that takes a secret out of it. -/
def secretMitigation (f : Finding) : List Mitigation :=
  if f.detector = Detector.hardcodedSecretName then
    ((secretFix? f.snippet f.file).map fun fixed => .code f.file f.snippet fixed).toList
  else []

/-- The threat of a finding. -/
def findingThreat (f : Finding) : Draft :=
  let p := Profile.forDetector f.detector
  { title := p.title ++ " in " ++ f.file
    category := p.category
    source := p.source
    prerequisites := p.prerequisites
    action := p.action
    consequence := p.consequence
    assets := (owner? a f.file).toList ++ [p.asset]
    boundary := profileBoundary a p
    assumptions :=
      [s!"Flagged by the {f.detector} detector at {f.file}:{f.line}" ++
        "; not confirmed by manual review"]
    mitigations := secretMitigation f ++ [.prose p.mitigation]
    cve := none
    likelihood := p.likelihood
    impact := p.impact
    suggestedSeverity := some f.severity.name }

/-! ### Architecture -/

/-- The name of the component that users reach first: the target of their first flow, the first
component for a browser, or the first that is not external. -/
def entryComponent? : Option String :=
  match a.validFlows.find? fun f => f.source == endUser with
  | some f => some f.target
  | none =>
    match a.firstOf? .frontend with
    | some c => some c.name
    | none => (a.components.find? fun c => c.kind != .external).map (·.name)

/-- A threat that follows from the architecture. -/
def architectureDraft (title : String) (category : Stride)
    (source prerequisites action consequence asset boundary : String)
    (likelihood : Likelihood) (impact : Impact) : Draft where
  title := title
  category := category
  source := source
  prerequisites := prerequisites
  action := action
  consequence := consequence
  assets := [asset]
  boundary := boundary
  assumptions := ["Inferred from repository structure heuristics"]
  mitigations := category.mitigations.map .prose
  cve := none
  likelihood := likelihood
  impact := impact
  suggestedSeverity := none

/-- The threat of a system without authentication. -/
def unauthenticatedAccess (entry : String) : Draft :=
  architectureDraft ("Unauthenticated access to " ++ entry) .spoofing "remote attacker"
    "with network access to the public entry point"
    "call the application without presenting verified credentials"
    "actions performed under a forged or missing identity" entry externalBoundary .remote
    .significant

/-- The threat of a system without a gateway. -/
def requestFlooding (entry : String) : Draft :=
  architectureDraft ("Request flooding of " ++ entry) .denialOfService "remote attacker"
    "with network access and no upstream rate limiting"
    "flood the public entry point with requests"
    "degraded or unavailable service for legitimate users" entry externalBoundary .moderate
    ⟨2, 3, 8, 3⟩

/-- The threat to a database. -/
def dataExposure (database : String) : Draft :=
  architectureDraft ("Sensitive data exposure from " ++ database) .informationDisclosure "attacker"
    "who obtains database credentials or a foothold in the internal network"
    "read stored records directly from the data store"
    "disclosure of persisted user and business data" database internalBoundary .moderate
    ⟨8, 5, 3, 5⟩

/-- The threat to a message queue. -/
def messageTampering (queue : String) : Draft :=
  architectureDraft ("Message tampering on " ++ queue) .tampering "internal attacker"
    "with access to the message broker" "inject or alter messages consumed by background workers"
    "unauthorized state changes triggered by forged messages" queue internalBoundary .moderate
    .moderate

/-- The threat of a system in which nothing was found. -/
def missingAudit (target : String) : Draft :=
  architectureDraft ("Missing audit trail for " ++ target) .repudiation "authenticated user"
    "performing security-relevant actions" "deny having performed an action"
    "inability to attribute or investigate incidents" target internalBoundary .low ⟨2, 3, 2, 7⟩

/-- What a system without any component is called. -/
def unnamedApplication : String := "the application"

/-- The threats that follow from the architecture. -/
def architectureThreats : List Draft :=
  let entry := entryComponent? a
  let hasAuth := (a.component? Category.auth.componentName).isSome
  (match entry with
    | some e =>
      (if hasAuth then [] else [unauthenticatedAccess e]) ++
        (if a.hasKind .gateway then [] else [requestFlooding e])
    | none => []) ++
    ((a.firstOf? .database).map fun c => dataExposure c.name).toList ++
    ((a.firstOf? .queue).map fun c => messageTampering c.name).toList ++
    (if a.findings.isEmpty then [missingAudit (entry.getD unnamedApplication)] else [])

/-- All threats by rules: those of the findings, and then those of the architecture. -/
def ruleThreats : List Draft := a.findings.map (findingThreat a) ++ architectureThreats a

theorem length_ruleThreats :
    (ruleThreats a).length = a.findings.length + (architectureThreats a).length := by
  simp [ruleThreats]

theorem ruleThreats_ne_nil : ruleThreats a ≠ [] := by
  unfold ruleThreats architectureThreats
  cases a.findings <;> simp

end ThreatModel
