import ThreatModel.Json.Basic

/-!
# Records in JSON

A record is an object with known members. A `Decoder` reads a value of one kind from JSON and fails
on everything else; `required`, `optional` and `withDefault` read members. Members that nobody asks
for are ignored.
-/

namespace ThreatModel.Json

/-- Reads a value of one kind. -/
abbrev Decoder (α : Type) := Json → Option α

namespace Decoder

/-- Any value. -/
def any : Decoder Json := some

/-- A string. -/
def string : Decoder String
  | .string s => some s
  | _ => none

/-- A Boolean. -/
def bool : Decoder Bool
  | .bool b => some b
  | _ => none

/-- An integer that is not negative. -/
def nat : Decoder Nat
  | .number (.integer n) => if 0 ≤ n then some n.toNat else none
  | _ => none

/-- An integer from zero to `max`. -/
def natUpTo (max : Nat) : Decoder Nat := fun x => (nat x).filter (· ≤ max)

/-- A number as a double. -/
def double : Decoder Binary
  | .number n => some n.toBinary
  | _ => none

/-- An array of values of one kind. -/
def list {α : Type} (item : Decoder α) : Decoder (List α)
  | .array xs => xs.mapM item
  | _ => none

/-- An array of strings. -/
def strings : Decoder (List String) := list string

/-- A value given by its name. -/
def named {α : Type} (ofName? : String → Option α) : Decoder α := fun x => (string x).bind ofName?

/-- An object of numbers that are not negative, by name. -/
def counts : Decoder (List (String × Nat))
  | .object ms => ms.mapM fun m => (nat m.2).map (m.1, ·)
  | _ => none

variable {α : Type}

/-- A member that must be there. -/
def required (key : String) (value : Decoder α) : Decoder α := fun x => (x.field? key).bind value

/-- A member that may be missing or `null`. -/
def optional (key : String) (value : Decoder α) : Decoder (Option α) := fun x =>
  match x.field? key with
  | none => some none
  | some .null => some none
  | some y => (value y).map some

/-- A member that may be missing. -/
def withDefault (key : String) (default : α) (value : Decoder α) : Decoder α := fun x =>
  match x.field? key with
  | none => some default
  | some y => value y

end Decoder

/-- The member of an optional field: nothing for no value. -/
def optionalMember (key : String) : Option String → List (String × Json)
  | some s => [(key, .string s)]
  | none => []

/-- Counts by name, as an object. -/
def ofCounts (cs : List (String × Nat)) : Json := .object (cs.map fun c => (c.1, nat c.2))

end ThreatModel.Json
