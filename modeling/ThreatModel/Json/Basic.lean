import ThreatModel.Number.Binary

/-!
# JSON values

`Json` is a JSON value after reading: an integer of at most 64 bits keeps its exact value, every
other number is a double, and no object has a key twice. `Json.field?` looks a member up.
-/

namespace ThreatModel

/-- A JSON number. -/
inductive Json.Number where
  | integer (value : Int)
  | double (value : Binary)
  deriving DecidableEq, Repr, Inhabited

/-- A JSON value. -/
inductive Json where
  | null
  | bool (value : Bool)
  | number (value : Json.Number)
  | string (value : String)
  | array (items : List Json)
  | object (members : List (String × Json))
  deriving Repr, Inhabited

namespace Json

/-- The double nearest to a number. -/
def Number.toBinary : Number → Binary
  | integer n => Precision.double.ofInt n
  | double x => x

/-- The value `null`. -/
def isNull : Json → Bool
  | null => true
  | _ => false

/-- The members of an object. -/
def members? : Json → Option (List (String × Json))
  | object ms => some ms
  | _ => none

/-- The member of this name, in a list of members. -/
def member? (ms : List (String × Json)) (key : String) : Option Json :=
  (ms.find? fun m => m.1 == key).map (·.2)

/-- The member of this name, of an object. -/
def field? (key : String) : Json → Option Json
  | object ms => member? ms key
  | _ => none

/-- Sets a member: the first member of that name is replaced, a new name goes to the end. -/
def setMember (key : String) (value : Json) : List (String × Json) → List (String × Json)
  | [] => [(key, value)]
  | m :: ms => if m.1 == key then (key, value) :: ms else m :: setMember key value ms

/-- Of members with one name, the last one counts. -/
def lastWins (ms : List (String × Json)) : List (String × Json) :=
  ms.foldl (fun acc m => setMember m.1 m.2 acc) []

/-- An integer. -/
def int (n : Int) : Json := number (.integer n)

/-- A natural number. -/
def nat (n : Nat) : Json := number (.integer n)

/-- An array of strings. -/
def strings (xs : List String) : Json := array (xs.map string)

/-- A value, or `null` for none. -/
def orNull : Option Json → Json
  | some x => x
  | none => null

end Json

end ThreatModel
