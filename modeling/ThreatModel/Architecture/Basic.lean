import ThreatModel.Risk.Severity
import ThreatModel.Text.Blank

/-!
# Architecture of a system

What is known about a system after looking at its sources: components, the data that flows between
them, the trust boundaries around them, and findings in the code. `Analysis.validFlows` keeps the
flows between known components, and `Analysis.rankedFindings` puts the most serious findings first.
-/

namespace ThreatModel

/-- The kind of a component. -/
inductive ComponentKind where
  | api
  | service
  | database
  | queue
  | gateway
  | external
  | frontend
  | config
  deriving DecidableEq, Repr, Inhabited

namespace ComponentKind

/-- The name. -/
def name : ComponentKind → String
  | api => "api"
  | service => "service"
  | database => "database"
  | queue => "queue"
  | gateway => "gateway"
  | external => "external"
  | frontend => "frontend"
  | config => "config"

/-- All kinds. -/
def all : List ComponentKind :=
  [api, service, database, queue, gateway, external, frontend, config]

/-- The kind of this name. -/
def ofName? (s : String) : Option ComponentKind := all.find? fun x => x.name == s

@[simp] theorem ofName?_name (k : ComponentKind) : ofName? k.name = some k := by cases k <;> decide

end ComponentKind

/-- A part of a system. -/
structure Component where
  name : String
  kind : ComponentKind
  /-- The files it was recognized in. -/
  files : List String
  description : String
  deriving DecidableEq, Repr, Inhabited

/-- Data that goes from one component to another, both given by name. -/
structure DataFlow where
  source : String
  target : String
  protocol : Option String
  dataType : String
  deriving DecidableEq, Repr, Inhabited

/-- The label of a flow: its protocol, or its data if the protocol is unknown or blank. -/
def DataFlow.label (f : DataFlow) : String :=
  match f.protocol with
  | some p => if Text.isBlankString p then f.dataType else p
  | none => f.dataType

/-- A boundary with the names of the components inside it. -/
structure TrustBoundary where
  name : String
  components : List String
  deriving DecidableEq, Repr, Inhabited

/-- Something in the code that looks like a weakness. -/
structure Finding where
  file : String
  /-- The line, counted from one. -/
  line : Nat
  /-- The name of the detector that found it. -/
  detector : String
  /-- The line of code. -/
  snippet : String
  severity : Severity
  description : String
  deriving DecidableEq, Repr, Inhabited

/-- Whether a finding may stand in front of another: higher severity first, then by file and
line. -/
def Finding.ranksBefore (a b : Finding) : Bool :=
  if a.severity.rank != b.severity.rank then decide (b.severity.rank < a.severity.rank)
  else if a.file != b.file then decide (a.file < b.file)
  else decide (a.line ≤ b.line)

/-- All that is known about a system. -/
structure Analysis where
  languages : List String
  frameworks : List String
  components : List Component
  dataFlows : List DataFlow
  trustBoundaries : List TrustBoundary
  findings : List Finding
  /-- The paths of the source files. -/
  fileTree : List String
  /-- The paths of the files at which the program starts. -/
  entryPoints : List String
  /-- Whether some source files were left out. -/
  truncated : Bool
  deriving DecidableEq, Repr, Inhabited

/-- The external component that every analysis has. -/
def endUser : String := "End User"

namespace Analysis

variable (a : Analysis)

/-- The first component of this name. -/
def component? (name : String) : Option Component := a.components.find? fun c => c.name == name

/-- The first component of this kind. -/
def firstOf? (kind : ComponentKind) : Option Component := a.components.find? fun c => c.kind == kind

/-- Whether there is a component of this kind. -/
def hasKind (kind : ComponentKind) : Bool := (a.firstOf? kind).isSome

/-- The flows between known components. -/
def validFlows : List DataFlow :=
  a.dataFlows.filter fun f => (a.component? f.source).isSome && (a.component? f.target).isSome

/-- The findings, the most serious first, then by file and line, otherwise as they were found. -/
def rankedFindings : List Finding := a.findings.mergeSort Finding.ranksBefore

theorem rankedFindings_perm : a.rankedFindings.Perm a.findings := List.mergeSort_perm _ _

theorem mem_validFlows {f : DataFlow} :
    f ∈ a.validFlows ↔ f ∈ a.dataFlows ∧
      (a.component? f.source).isSome ∧ (a.component? f.target).isSome := by
  simp [validFlows]

end Analysis

end ThreatModel
