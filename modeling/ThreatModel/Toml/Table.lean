import ThreatModel.Json.Basic

/-!
# Tables of TOML

The statements of a TOML text build up a tree of tables. A table may be named by a header, by the
keys of its members, or only on the way to another table, and what may be added to it later depends
on that.

* A header names a table once, and never one that keys have named (`defineTable`).
* Keys with points extend only tables that such keys have named (`addValue`).
-/

namespace ThreatModel.Toml

/-- How a table came to be. -/
inductive Naming where
  /-- A header names it. -/
  | header
  /-- It stands on the way to a table with a header. -/
  | passing
  /-- It stands in front of a point in a key. -/
  | dotted
  deriving DecidableEq, Repr

/-- What a name in a table stands for. -/
inductive Node where
  /-- A value that is complete. -/
  | value (v : Json)
  | table (naming : Naming) (entries : List (String × Node))
  /-- An array of tables, to which further tables may be added. -/
  | tables (items : List (List (String × Node)))

/-- The members of a table. -/
abbrev Entries := List (String × Node)

/-- Puts a node in the place of the one with that name, or at the end. -/
def Entries.set (key : String) (n : Node) : Entries → Entries
  | [] => [(key, n)]
  | e :: es => if e.1 == key then (key, n) :: es else e :: Entries.set key n es

/-- Changes the last item of a list, if there is one. -/
def changeLast {α : Type} (f : α → Option α) : List α → Option (List α)
  | [] => none
  | [x] => (f x).map ([·])
  | x :: y :: r => (changeLast f (y :: r)).map (x :: ·)

/-- What is done at the end of a path: how the table there came to be, and its members. -/
abbrev Change := Naming → Entries → Option Entries

/-- Follows a path of table names and makes a change at its end. Tables that are missing come into
being; the last one counts of an array of tables, unless the path is part of a key. -/
def follow (inKey : Bool) (change : Change) (naming : Naming) :
    List String → Entries → Option Entries
  | [], es => change naming es
  | k :: ks, es =>
    match es.lookup k with
    | none =>
      let new := if inKey then Naming.dotted else .passing
      (follow inKey change new ks []).map fun t => es ++ [(k, .table new t)]
    | some (.table naming t) =>
      -- Keys with points do not reach into a table that a header has named.
      if inKey && naming == .header then none
      else (follow inKey change naming ks t).map fun t => Entries.set k (.table naming t) es
    | some (.tables ts) =>
      -- A header goes on in the table that was added last.
      if inKey then none
      else
        (changeLast (follow inKey change .header ks) ts).map fun ts => Entries.set k (.tables ts) es
    | some (.value _) => none

/-- Names a table in a header. -/
def defineTable (key : String) (es : Entries) : Option Entries :=
  match es.lookup key with
  | none => some (es ++ [(key, .table .header [])])
  | some (.table .passing t) => some (Entries.set key (.table .header t) es)
  | some _ => none

/-- Adds a table to an array of tables. -/
def extendTables (key : String) (es : Entries) : Option Entries :=
  match es.lookup key with
  | none => some (es ++ [(key, .tables [[]])])
  | some (.tables ts) => some (Entries.set key (.tables (ts ++ [[]])) es)
  | some _ => none

/-- Splits the last part off a key. -/
def splitKey (ks : List String) : List String × String := (ks.dropLast, ks.getLastD "")

/-- Adds a value under a key, which may have several parts. -/
def addValue (ks : List String) (v : Json) (es : Entries) : Option Entries :=
  let (path, key) := splitKey ks
  follow true (fun naming es =>
    if (naming == .dotted) == path.isEmpty || (es.lookup key).isSome then none
    else some (es ++ [(key, .value v)])) .header path es

mutual

/-- The value of a node. -/
def Node.toJson : Node → Json
  | .value v => v
  | .table _ es => .object (entriesToJson es)
  | .tables ts => .array (tablesToJson ts)

/-- The members of a table. -/
def entriesToJson : List (String × Node) → List (String × Json)
  | [] => []
  | (k, n) :: es => (k, n.toJson) :: entriesToJson es

/-- The tables of an array. -/
def tablesToJson : List (List (String × Node)) → List Json
  | [] => []
  | t :: ts => .object (entriesToJson t) :: tablesToJson ts

end

end ThreatModel.Toml
