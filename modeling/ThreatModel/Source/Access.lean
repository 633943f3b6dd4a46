import ThreatModel.Source.Tree

/-!
# Access to files

Reading and writing the files of a tree by their paths, with the refusals of an operating system.
-/

namespace ThreatModel

/-- Why a file cannot be read or written. -/
inductive AccessError where
  | missing
  | notADirectory
  | isADirectory
  | notText
  deriving DecidableEq, Repr, Inhabited

/-- The text of an error. -/
def AccessError.message : AccessError → String
  | missing => "No such file or directory (os error 2)"
  | notADirectory => "Not a directory (os error 20)"
  | isADirectory => "Is a directory (os error 21)"
  | notText => "stream did not contain valid UTF-8"

namespace Tree

/-- The paths that a path leads through, and the path itself. -/
def passed (path : String) : List String :=
  let ps := parts path
  (List.range (ps.length + 1)).map fun n => "/".intercalate (ps.take n)

/-- Whether a path leads through a file. -/
def crossesFile (t : Tree) (path : String) : Bool :=
  (passed path).any fun p =>
    match t.resolve? p with
    | some (.file ..) => true
    | _ => false

/-- The text of the file at a path. -/
def readText (t : Tree) (path : String) : Except AccessError String :=
  match t.resolve? path with
  | some (.directory _) => .error .isADirectory
  | some (.file _ text?) =>
    if path.endsWith "/" then .error .notADirectory
    else match text? with
      | some text => .ok text
      | none => .error .notText
  | some (.link _) => .error .missing
  | none => .error (if t.crossesFile path then .notADirectory else .missing)

/-- A path without its last part. -/
def above (path : String) : String := "/".intercalate (parts path).dropLast

/-- The parts of a path with every step up taken together with the step before it. -/
def straightened (path : String) : List String :=
  ((parts path).foldl (fun up p => if p = ".." then up.drop 1 else p :: up) []).reverse

/-- The tree after writing a file at a path. -/
def writeText (t : Tree) (path text : String) : Except AccessError Tree :=
  let written := insert (ofText text) (straightened path) t
  match t.resolve? path, t.resolve? (above path) with
  | some (.directory _), _ => .error .isADirectory
  | some (.file ..), some (.directory _) =>
    if path.endsWith "/" then .error .notADirectory else .ok written
  | none, some (.directory _) =>
    if path.endsWith "/" then .error .isADirectory else .ok written
  | _, _ => .error (if t.crossesFile (above path) then .notADirectory else .missing)

end Tree

end ThreatModel
