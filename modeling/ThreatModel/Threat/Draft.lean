import ThreatModel.Risk.Factor
import ThreatModel.Stride

/-!
# Drafts of threats

A `Draft` describes a threat before it has been rated. It may carry a severity that somebody
suggested; that suggestion is never used for a rating.
-/

namespace ThreatModel

/-- The text of a clause that nothing is known about. -/
def unspecified : String := "Not specified"

/-- What can be done against a threat: a sentence, or a change of code. -/
inductive Mitigation where
  | prose (text : String)
  | code (file before after : String)
  deriving DecidableEq, Repr, Inhabited

/-- A threat before it has been rated. -/
structure Draft where
  title : String
  category : Stride
  /-- Who acts. -/
  source : String
  /-- What the actor needs. -/
  prerequisites : String
  /-- What the actor does. -/
  action : String
  /-- What follows from it. -/
  consequence : String
  /-- The names of what is harmed. -/
  assets : List String
  /-- The name of the trust boundary concerned. -/
  boundary : String
  assumptions : List String
  mitigations : List Mitigation
  /-- An entry in a list of known vulnerabilities. -/
  cve : Option String
  likelihood : Likelihood
  impact : Impact
  /-- A severity that somebody suggested. -/
  suggestedSeverity : Option String
  deriving DecidableEq, Repr, Inhabited

end ThreatModel
