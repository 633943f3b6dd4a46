/-!
# Origins of threats

Which of the two ways the threats of a report were found.
-/

namespace ThreatModel

/-- How threats were found. -/
inductive Origin where
  /-- A model was asked. -/
  | model
  /-- They follow from rules. -/
  | rules
  deriving DecidableEq, Repr, Inhabited

namespace Origin

/-- The name in reports. -/
def name : Origin → String
  | model => "model"
  | rules => "rules"

/-- All origins. -/
def all : List Origin := [model, rules]

/-- The origin of this name. -/
def ofName? (s : String) : Option Origin := all.find? fun o => o.name == s

@[simp] theorem ofName?_name (o : Origin) : ofName? o.name = some o := by cases o <;> decide

end Origin

end ThreatModel
