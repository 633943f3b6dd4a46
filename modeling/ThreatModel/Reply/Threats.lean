import ThreatModel.Reply.Element
import ThreatModel.Reply.Fence

/-!
# Threats in a reply

`elements` reads the array in a reply. If it cannot be read as it stands, it is taken to be broken
off, and its complete elements are read. `threats` makes drafts of those elements that are objects
and counts the others.
-/

namespace ThreatModel.Reply

/-- Why there are no elements in a reply. -/
inductive RecoveryError where
  | noArray
  | noCompleteElement
  | malformed (reason : String)
  deriving DecidableEq, Repr, Inhabited

/-- The text of an error. -/
def RecoveryError.message : RecoveryError → String
  | noArray => "Response contains no array"
  | noCompleteElement => "Truncated response contains no complete element"
  | malformed reason => "Recovered response is still malformed: " ++ reason

/-- An element that is no object, at a place in the array. -/
structure NotAnObject where
  index : Nat
  deriving DecidableEq, Repr

/-- The text of the error. -/
def NotAnObject.message (e : NotAnObject) : String := s!"Element {e.index} is not an object"

/-- The elements of the array in a reply, and whether it had been broken off. -/
def elements (text : List Char) : Except RecoveryError (List Json × Bool) :=
  match splitAtArray? (unfenced text) with
  | none => .error .noArray
  | some (_, tail) =>
    match Json.readChars? (throughLast ']' tail) with
    | some (.array xs) => .ok (xs, false)
    | _ =>
      -- The last bracket may stand inside an element that was broken off, so all of it counts.
      match throughLastElement? tail with
      | none => .error .noCompleteElement
      | some front =>
        match Json.readChars? (front ++ [']']) with
        | some (.array xs) => .ok (xs, true)
        | some _ => .error (.malformed "not an array")
        | none => .error (.malformed "not valid JSON")

/-- The draft in the element at a place. -/
def draftAt (index : Nat) (x : Json) : Except NotAnObject Draft :=
  match draftOf? x with
  | some d => .ok d
  | none => .error ⟨index⟩

/-- What was found in a reply. -/
structure Outcome where
  drafts : List Draft
  /-- Whether the array had been broken off. -/
  recovered : Bool
  /-- The number of elements that are no objects. -/
  dropped : Nat
  deriving DecidableEq, Repr

/-- The drafts of elements. -/
def Outcome.ofElements (xs : List Json) (recovered : Bool) : Outcome where
  drafts := xs.filterMap draftOf?
  recovered := recovered
  dropped := xs.countP fun x => (draftOf? x).isNone

/-- The threats in a reply. -/
def threats (text : List Char) : Except RecoveryError Outcome :=
  (elements text).map fun (xs, recovered) => .ofElements xs recovered

theorem Outcome.length_ofElements (xs : List Json) (recovered : Bool) :
    (Outcome.ofElements xs recovered).drafts.length + (Outcome.ofElements xs recovered).dropped =
      xs.length := by
  induction xs with
  | nil => rfl
  | cons x xs ih =>
    simp only [ofElements] at ih ⊢
    cases h : draftOf? x <;> simp [h] <;> omega

end ThreatModel.Reply
