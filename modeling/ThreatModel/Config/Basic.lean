import ThreatModel.Chat.Retry
import ThreatModel.Limits
import ThreatModel.Number.Binary
import ThreatModel.Synthesis.Origin
import ThreatModel.Text.Blank
import ThreatModel.Text.Search

/-!
# Configuration

The settings of the program, with their defaults, and what follows from them: whether threats come
from a model or from rules (`Config.origin`).
-/

namespace ThreatModel

/-- How threats are to be found. -/
inductive Mode where
  /-- By a model if there is a key for it, otherwise by rules. -/
  | auto
  | model
  | rules
  deriving DecidableEq, Repr, Inhabited

namespace Mode

/-- The name. -/
def name : Mode → String
  | auto => "auto"
  | model => "model"
  | rules => "rules"

/-- All modes. -/
def all : List Mode := [auto, model, rules]

/-- The mode of this name. -/
def ofName? (s : String) : Option Mode := all.find? fun m => m.name == s

@[simp] theorem ofName?_name (m : Mode) : ofName? m.name = some m := by cases m <;> decide

/-- A name that is no mode. -/
structure Unknown where
  name : String
  deriving DecidableEq, Repr

/-- The text of the error. -/
def Unknown.message (e : Unknown) : String := "unknown synthesis mode '" ++ e.name ++ "'"

/-- The mode that a user names: in any case, with blanks around it, or by its other name. -/
def ofText (s : String) : Except Unknown Mode :=
  let t := Text.asciiLower (Text.trimmed s)
  if t = "offline" then .ok rules
  else
    match ofName? t with
    | some m => .ok m
    | none => .error ⟨t⟩

end Mode

/-- The settings of the program. -/
structure Config where
  /-- Where the chat service is. -/
  endpoint : String := "https://api.openai.com/v1"
  model : String := "gpt-4o-mini"
  /-- The longest answer of the model. -/
  maxTokens : Nat := 8192
  /-- How freely the model answers, in single precision. -/
  temperature : Binary := Precision.single.ofDecimal false 2 (-1)
  apiKey : Option String := none
  /-- How long an answer may take. -/
  timeoutSeconds : Nat := 120
  retry : Chat.RetryPolicy := {}
  limits : Limits := {}
  mode : Mode := .auto
  deriving DecidableEq, Repr, Inhabited

namespace Config

variable (c : Config)

/-- Whether there is a key for the chat service. -/
def hasCredentials : Bool :=
  match c.apiKey with
  | some k => !Text.isBlankString k
  | none => false

/-- How threats are found. -/
def origin : Origin :=
  match c.mode with
  | .model => .model
  | .rules => .rules
  | .auto => if c.hasCredentials then .model else .rules

theorem origin_of_auto (h : c.mode = .auto) :
    c.origin = .model ↔ c.hasCredentials = true := by
  cases hk : c.hasCredentials <;> simp [origin, h, hk]

end Config

end ThreatModel
