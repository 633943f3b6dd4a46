import ThreatModel.Json.Tree

/-!
# Records read strictly

Some records are read from the syntax tree of a text, because it shows what a value no longer does:
a known member that is there twice is refused, while members that nobody asks for are skipped,
whatever they hold. Such a record may also be an array of its fields in order.
-/

namespace ThreatModel.Json.Tree

/-- A string. -/
def string? : Tree → Option String
  | .string l => l.string?
  | _ => none

/-- An integer from zero to `max`. -/
def natUpTo? (max : Nat) : Tree → Option Nat
  | .number n =>
    match n.value? with
    | some (.integer (.ofNat k)) => if k ≤ max then some k else none
    | _ => none
  | _ => none

variable {α : Type}

/-- An array of values of one kind. -/
def list? (item : Tree → Option α) : Tree → Option (List α)
  | .array ts => ts.mapM item
  | _ => none

/-- A value, or `null`. -/
def nullable? (value : Tree → Option α) : Tree → Option (Option α)
  | .null => some none
  | t => (value t).map some

/-- The only member of this name; nothing if there is none, a failure if there are several. -/
def onlyMember? (ms : List (String × Tree)) (key : String) : Option (Option Tree) :=
  match ms.filter fun m => m.1 == key with
  | [] => some none
  | [m] => some (some m.2)
  | _ => none

/-- The fields of a record, in the order of their names. An object may leave fields out; an array
holds them in order, and at least the first `least` of them. -/
def fields? (names : List String) (least : Nat) : Tree → Option (List (Option Tree))
  | .object ms => do
    let ms ← ms.mapM fun (l, t) => do return (← Literal.string? l, t)
    names.mapM (onlyMember? ms)
  | .array ts =>
    if least ≤ ts.length && ts.length ≤ names.length then
      some (ts.map some ++ List.replicate (names.length - ts.length) none)
    else none
  | _ => none

/-- A field that must be there. -/
def required (value : Tree → Option α) (field : Option Tree) : Option α := field.bind value

/-- A field that may be missing. -/
def withDefault (default : α) (value : Tree → Option α) : Option Tree → Option α
  | none => some default
  | some t => value t

end ThreatModel.Json.Tree
