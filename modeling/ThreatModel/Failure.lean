import ThreatModel.Chat.Error
import ThreatModel.Reply.Threats
import ThreatModel.Source.Error

/-!
# Failures of runs

Why a run fails: a cause, perhaps under the name of the stage it arose in, and what was being done
meanwhile. `Failure.message` tells all of it in one line, and `Failure.exit` is how the program
ends; a layer of what was being done does not hide the cause (`exit_within`).
-/

namespace ThreatModel

/-- How the program ends. -/
inductive Exit where
  | success
  | failure
  | configuration
  | collection
  | model
  | recovery
  /-- It was stopped by a signal. -/
  | interrupted
  deriving DecidableEq, Repr, Inhabited

/-- The exit code. -/
def Exit.code : Exit → Nat
  | success => 0
  | failure => 1
  | configuration => 2
  | collection => 3
  | model => 4
  | recovery => 5
  | interrupted => 130

/-- What went wrong. -/
inductive Cause where
  | collection (e : CollectionError)
  | chat (e : Chat.Error)
  | recovery (e : Reply.RecoveryError)
  | configuration (reason : String)
  | internal (reason : String)
  | unreadable (path reason : String)
  | notAnObject (e : Reply.NotAnObject)
  | other (reason : String)
  deriving DecidableEq, Repr, Inhabited

namespace Cause

/-- The text of a cause. -/
def message : Cause → String
  | collection e => e.message
  | chat e => e.message
  | recovery e => e.message
  | configuration reason => "Configuration error: " ++ reason
  | internal reason => "Internal error: " ++ reason
  | unreadable path reason => "Unreadable file " ++ path ++ ": " ++ reason
  | notAnObject e => e.message
  | other reason => reason

/-- What a cause is called after the stage in which it arose. -/
def stage? : Cause → Option String
  | collection _ => some "Collection error"
  | chat _ => some "Model error"
  | recovery _ => some "Recovery error"
  | _ => none

/-- How the program ends. -/
def exit : Cause → Exit
  | collection _ => .collection
  | chat _ => .model
  | recovery _ => .recovery
  | configuration _ => .configuration
  | _ => .failure

/-- Whether another attempt may succeed, where attempts are made. -/
def isRetryable? : Cause → Option Bool
  | chat e => some e.isRetryable
  | _ => none

end Cause

/-- Why a run fails. -/
structure Failure where
  cause : Cause
  /-- Whether the stage is named. -/
  staged : Bool := false
  /-- What was being done, the outermost first. -/
  context : List String := []
  deriving DecidableEq, Repr, Inhabited

namespace Failure

variable (f : Failure)

/-- The failure while something was being done. -/
def within (doing : String) : Failure := { f with context := doing :: f.context }

/-- The cause under the name of its stage. -/
def stageText? : Option String :=
  if f.staged then f.cause.stage?.map fun s => s ++ ": " ++ f.cause.message else none

/-- Everything that is to be told, from the outside to the cause. -/
def chain : List String := f.context ++ f.stageText?.toList ++ [f.cause.message]

/-- What is told first. -/
def display : String := f.chain.headD ""

/-- All of it in one line. -/
def message : String := ": ".intercalate f.chain

/-- How the program ends. The cause alone decides it: what was being done lies around the cause as
one layer after another, and none of them hides it. A cause is of one kind, so that it does not
matter in which order the kinds are asked for. -/
def exit : Exit := f.cause.exit

@[simp] theorem exit_within (doing : String) : (f.within doing).exit = f.exit := rfl

@[simp] theorem chain_within (doing : String) : (f.within doing).chain = doing :: f.chain := rfl

end Failure

/-- What comes of a step that may fail. -/
abbrev Run (α : Type) := Except Failure α

namespace Run

variable {α : Type}

/-- Fails with a cause. -/
def fail (c : Cause) : Run α := .error { cause := c }

/-- A step while something is being done. -/
def within (doing : String) (r : Run α) : Run α := r.mapError fun f => f.within doing

end Run

end ThreatModel
