import ThreatModel.Risk.Rating
import ThreatModel.Text.Search
import ThreatModel.Threat.Draft

/-!
# Rated threats

A `ThreatRecord` is a draft with an id, a rating, and a statement: one sentence put together from
the clauses of the draft. `ThreatRecord.ofDraft` makes it; the severity is that of the rating
(`severity_ofDraft`), whatever severity the draft suggests.
-/

namespace ThreatModel

/-- A rated threat. -/
structure ThreatRecord where
  id : String
  title : String
  category : Stride
  severity : Severity
  source : String
  prerequisites : String
  action : String
  consequence : String
  assets : List String
  boundary : String
  assumptions : List String
  mitigations : List Mitigation
  cve : Option String
  /-- The threat as one sentence. -/
  statement : String
  risk : Rating
  deriving DecidableEq, Repr, Inhabited

/-! ### Statements -/

/-- A text without the given character at its end. -/
def dropTrailing (c : Char) (cs : List Char) : List Char :=
  (cs.reverse.dropWhile (· == c)).reverse

/-- The clause in a text: without blanks around it and without periods at its end; none if nothing
is left or nothing is known. -/
def clause? (s : String) : Option String :=
  let part := String.ofList (dropTrailing '.' (Text.trim s.toList))
  if part.isEmpty || part = unspecified then none else some part

/-- The sentence made of the clauses of a threat. -/
def threatStatement (source prerequisites action consequence : String) (assets : List String) :
    String :=
  "A " ++ (clause? source).getD "threat actor" ++
    (match clause? prerequisites with
      | some p => " " ++ p
      | none => "") ++
    " can " ++ (clause? action).getD "exploit this weakness" ++
    (match clause? consequence with
      | some c => ", which leads to " ++ c
      | none => "") ++
    ", negatively impacting " ++
    (if assets.isEmpty then "the system" else ", ".intercalate assets) ++ "."

namespace ThreatRecord

/-- The sentence made of the clauses of a record. -/
def render (r : ThreatRecord) : String :=
  threatStatement r.source r.prerequisites r.action r.consequence r.assets

/-- The record with its statement made anew. -/
def restated (r : ThreatRecord) : ThreatRecord := { r with statement := r.render }

/-- The record of a draft. -/
def ofDraft (id : String) (d : Draft) : ThreatRecord :=
  let risk := Rating.compute d.likelihood d.impact
  { id := id
    title := d.title
    category := d.category
    severity := risk.severity
    source := d.source
    prerequisites := d.prerequisites
    action := d.action
    consequence := d.consequence
    assets := d.assets
    boundary := d.boundary
    assumptions := d.assumptions
    mitigations := d.mitigations
    cve := d.cve
    statement := threatStatement d.source d.prerequisites d.action d.consequence d.assets
    risk := risk }

/-- The severity computed once more from the factors of the rating. -/
def derivedSeverity (r : ThreatRecord) : Severity :=
  (Rating.compute r.risk.likelihood r.risk.impact).severity

theorem severity_ofDraft (id : String) (d : Draft) :
    (ofDraft id d).severity = (Rating.compute d.likelihood d.impact).severity := rfl

theorem restated_ofDraft (id : String) (d : Draft) : (ofDraft id d).restated = ofDraft id d := rfl

end ThreatRecord

end ThreatModel
