import ThreatModel.Source.File

/-!
# File trees

A directory with everything below it. `Tree.resolve?` finds what is at a path, through symbolic
links, and `Tree.insert` puts a file, a directory or a link at a path and makes the directories
above it.

Names are texts. A name that is not valid UTF-8, of which a walk would report a text with
replacement characters, is left out.
-/

namespace ThreatModel

/-- A file, a symbolic link, or a directory with its entries by name. -/
inductive Tree where
  | file (size : Nat) (text? : Option String)
  | link (target : String)
  | directory (entries : List (String × Tree))
  deriving Repr, Inhabited

namespace Tree

/-- The parts of a path; empty parts and points for the same directory do not count. -/
def parts (path : String) : List String :=
  ((Text.splitOn '/' path.toList).map String.ofList).filter fun p => p != "" && p != "."

/-- A file with a text. -/
def ofText (text : String) : Tree := .file text.utf8ByteSize (some text)

/-- The entry of this name. -/
def child? (entries : List (String × Tree)) (name : String) : Option Tree := entries.lookup name

/-- Sets the entry of a name; a new one goes to the end. -/
def setEntry (name : String) (t : Tree) : List (String × Tree) → List (String × Tree)
  | [] => [(name, t)]
  | e :: es => if e.1 == name then (name, t) :: es else e :: setEntry name t es

/-- The entries of a directory; none of anything else. -/
def entries : Tree → List (String × Tree)
  | directory es => es
  | _ => []

/-- Puts something at a path below a directory. A directory that is there already is kept. -/
def insert (new : Tree) : List String → Tree → Tree
  | [], old =>
    match new, old with
    | directory _, directory es => directory es
    | _, _ => new
  | p :: ps, t =>
    let below := (child? t.entries p).getD (directory [])
    directory (setEntry p (insert new ps below) t.entries)

/-- The tree with something at each of some paths. -/
def ofList (items : List (String × Tree)) : Tree :=
  items.foldl (fun t (path, new) => insert new (parts path) t) (directory [])

/-- The number of links that a path may lead through. -/
def maxLinks : Nat := 40

/-- What is at a path from `here` on. `above` holds the directories passed, the last one first, and
`links` says how many links may still be followed. -/
def walkTo (links : Nat) (above : List Tree) (here : Tree) :
    (path : List String) → Option Tree
  | [] =>
    match here with
    | link target =>
      match links with
      | 0 => none
      | links + 1 =>
        -- A target counts from the directory that holds the link.
        if target.startsWith "/" then none
        else match above with
          | [] => none
          | dir :: above => walkTo links above dir (parts target)
    | _ => some here
  | p :: ps =>
    match here with
    | file .. => none
    | directory es =>
      if p = ".." then
        match above with
        | [] => none
        | dir :: above => walkTo links above dir ps
      else (child? es p).bind fun t => walkTo links (here :: above) t ps
    | link target =>
      match links with
      | 0 => none
      | links + 1 =>
        if target.startsWith "/" then none
        else match above with
          | [] => none
          | dir :: above => walkTo links above dir (parts target ++ p :: ps)
termination_by path => (links, path.length)

/-- What is at a path, with links followed; nothing outside of the tree. -/
def resolve? (t : Tree) (path : String) : Option Tree := walkTo maxLinks [] t (parts path)

/-- Whether this is a directory. -/
def isDirectory : Tree → Bool
  | directory _ => true
  | _ => false

end Tree

end ThreatModel
