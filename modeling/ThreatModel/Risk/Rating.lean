import ThreatModel.Risk.Factor
import ThreatModel.Risk.Severity

/-!
# Risk rating

A risk is rated in five steps: the factors are brought into range, each group is averaged to a
score with two decimals, each score falls into a `Level`, a matrix of the two levels gives the
`Grade`, and the grade gives the severity. The product of the two scores ranks risks of one
severity. `Rating.compute` is the only place where a severity is decided.
-/

namespace ThreatModel

/-- The level of a likelihood or impact score. -/
inductive Level where
  | low
  | medium
  | high
  deriving DecidableEq, Repr, Inhabited

/-- A cell of the severity matrix. -/
inductive Grade where
  | note
  | low
  | medium
  | high
  | critical
  deriving DecidableEq, Repr, Inhabited

namespace Level

/-- The name. -/
def name : Level → String
  | low => "LOW"
  | medium => "MEDIUM"
  | high => "HIGH"

/-- All levels, the lowest first. -/
def all : List Level := [low, medium, high]

/-- The level of this name. -/
def ofName? (s : String) : Option Level := all.find? fun x => x.name == s

@[simp] theorem ofName?_name (l : Level) : ofName? l.name = some l := by cases l <;> decide

/-- The place in the order, `low` first. -/
def rank : Level → Nat
  | low => 0
  | medium => 1
  | high => 2

/-- Scores below 3 are low, scores below 6 medium, and all others high. -/
def ofScore (score : Binary) : Level :=
  if score.lt (.finite false 3 0) then low
  else if score.lt (.finite false 6 0) then medium
  else high

end Level

namespace Grade

/-- The name. -/
def name : Grade → String
  | note => "Note"
  | low => "Low"
  | medium => "Medium"
  | high => "High"
  | critical => "Critical"

/-- All grades, the lowest first. -/
def all : List Grade := [note, low, medium, high, critical]

/-- The grade of this name. -/
def ofName? (s : String) : Option Grade := all.find? fun x => x.name == s

@[simp] theorem ofName?_name (g : Grade) : ofName? g.name = some g := by cases g <;> decide

/-- The severity of a grade: a note counts as low. -/
def severity : Grade → Severity
  | critical => .critical
  | high => .high
  | medium => .medium
  | low => .low
  | note => .low

/-- The severity matrix. -/
def ofLevels (impact likelihood : Level) : Grade :=
  match impact, likelihood with
  | .high, .high => critical
  | .high, .medium => high
  | .medium, .high => high
  | .high, .low => medium
  | .medium, .medium => medium
  | .low, .high => medium
  | .medium, .low => low
  | .low, .medium => low
  | .low, .low => note

end Grade

/-! ### Scores -/

/-- Rounds a double to two decimals, halves away from zero: the value times a hundred is rounded
to a whole number, and that is divided by a hundred. -/
def round2 (x : Binary) : Binary :=
  let p := Precision.double
  p.div (p.round (p.mul x (p.ofNat 100))) (p.ofNat 100)

/-- The average of some factors with two decimals; the neutral factor if there are none. -/
def score (factors : List Nat) : Binary :=
  let p := Precision.double
  if factors.isEmpty then p.ofNat neutralFactor
  else round2 (p.div (p.ofNat (factors.foldr (· + ·) 0)) (p.ofNat factors.length))

/-- A complete rating. -/
structure Rating where
  likelihood : Likelihood
  impact : Impact
  /-- The average of the likelihood factors. -/
  likelihoodScore : Binary
  /-- The average of the impact factors. -/
  impactScore : Binary
  likelihoodLevel : Level
  impactLevel : Level
  grade : Grade
  severity : Severity
  /-- The product of the two scores, which only ranks. -/
  overallScore : Binary
  deriving DecidableEq, Repr, Inhabited

namespace Rating

/-- Rates factors, after bringing them into range. -/
def compute (likelihood : Likelihood) (impact : Impact) : Rating :=
  let l := likelihood.clamped
  let i := impact.clamped
  let ls := score l.values
  let is := score i.values
  let grade := Grade.ofLevels (.ofScore is) (.ofScore ls)
  { likelihood := l
    impact := i
    likelihoodScore := ls
    impactScore := is
    likelihoodLevel := .ofScore ls
    impactLevel := .ofScore is
    grade := grade
    severity := grade.severity
    overallScore := round2 (Precision.double.mul ls is) }

/-- A list of factors of the wrong length. -/
inductive ArityError where
  | likelihood (count : Nat)
  | impact (count : Nat)
  deriving DecidableEq, Repr

/-- The text of an error, in terms of the options that take the lists. -/
def ArityError.message : ArityError → String
  | likelihood n => s!"--likelihood needs 8 values, got {n}"
  | impact n => s!"--impact needs 4 values, got {n}"

/-- Rates two lists of factors. -/
def ofLists (likelihood impact : List Nat) : Except ArityError Rating :=
  match Likelihood.ofList? likelihood with
  | none => .error (.likelihood likelihood.length)
  | some l =>
    match Impact.ofList? impact with
    | none => .error (.impact impact.length)
    | some i => .ok (compute l i)

theorem clamped_compute (l : Likelihood) (i : Impact) :
    compute l.clamped i.clamped = compute l i := by
  simp [compute]

theorem severity_compute (l : Likelihood) (i : Impact) :
    (compute l i).severity = (compute l i).grade.severity := rfl

end Rating

end ThreatModel
