/-!
# Methodologies

The methodology that an analysis follows.
-/

namespace ThreatModel

/-- A methodology of threat modeling. -/
inductive Methodology where
  | stride
  | pasta
  | owasp
  deriving DecidableEq, Repr, Inhabited

namespace Methodology

/-- The name in reports and on the command line. -/
def name : Methodology → String
  | stride => "stride"
  | pasta => "pasta"
  | owasp => "owasp"

/-- All methodologies. -/
def all : List Methodology := [stride, pasta, owasp]

/-- The methodology of this name. -/
def ofName? (s : String) : Option Methodology := all.find? fun m => m.name == s

@[simp] theorem ofName?_name (m : Methodology) : ofName? m.name = some m := by
  cases m <;> decide

/-- What a model is told about the methodology. -/
def guidance : Methodology → String
  | stride =>
    "Apply STRIDE: walk every component and data flow, and for each trust boundary crossing " ++
      "consider all six categories."
  | pasta =>
    "Apply PASTA: start from business objectives, decompose the application, analyze attack " ++
      "scenarios against each entry point, and express every resulting threat under its " ++
      "closest STRIDE category."
  | owasp =>
    "Apply the OWASP Top 10 lens: map findings and architecture to injection, broken " ++
      "authentication, sensitive data exposure, misconfiguration and access-control " ++
      "weaknesses, then classify each threat under its closest STRIDE category."

end Methodology

end ThreatModel
