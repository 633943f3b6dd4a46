import ThreatModel.Text.Search

/-!
# Source files

A file of the system under analysis: its path below the root, its size, and its text if it can be
read as text.
-/

namespace ThreatModel

/-- A file of the system under analysis. -/
structure SourceFile where
  /-- The path below the root, its parts separated by slashes. -/
  path : String
  /-- The size in bytes. -/
  size : Nat
  /-- The text; none for a file that cannot be read, or not as text. -/
  text? : Option String
  deriving DecidableEq, Repr, Inhabited

/-- The files of a system, as far as they were collected. -/
structure SourceSet where
  files : List SourceFile
  /-- Whether files were left out because there are too many. -/
  truncated : Bool
  /-- The number of files left out because they are too large. -/
  skippedOversize : Nat
  deriving DecidableEq, Repr, Inhabited

namespace SourceFile

/-- A file whose text is at hand. -/
def ofText (path text : String) : SourceFile := ⟨path, text.utf8ByteSize, some text⟩

/-- The part of a path behind its last slash. -/
def nameOfPath (path : String) : String :=
  match Text.splitLast? '/' path.toList with
  | some (_, name) => String.ofList name
  | none => path

/-- The part of a file name behind its last point, in lower case; none if there is no point or
nothing in front of it. -/
def extensionOfName? (name : String) : Option String :=
  match Text.splitLast? '.' name.toList with
  | some (_ :: _, ext) => some (Text.asciiLower (String.ofList ext))
  | _ => none

/-- The part of a file name in front of its last point. -/
def stemOfName (name : String) : String :=
  match Text.splitLast? '.' name.toList with
  | some (stem, _) => String.ofList stem
  | none => name

/-- The name of the file. -/
def name (f : SourceFile) : String := nameOfPath f.path

/-- The extension of the file. -/
def extension? (f : SourceFile) : Option String := extensionOfName? f.name

end SourceFile

/-- A set of files that is complete. -/
def SourceSet.ofFiles (files : List SourceFile) : SourceSet := ⟨files, false, 0⟩

/-- The paths of the files. -/
def SourceSet.paths (s : SourceSet) : List String := s.files.map (·.path)

end ThreatModel
