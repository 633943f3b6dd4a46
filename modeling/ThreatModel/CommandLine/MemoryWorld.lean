import ThreatModel.CommandLine.Run
import ThreatModel.Source.Access

/-!
# A world in memory

A world that is one tree of files. It has no terminal, and nothing is fetched or delivered in it,
since the program brings no network client. Running the program in it shows what is said and what
is written.
-/

namespace ThreatModel.CommandLine

/-- What a fetch comes to in a program without a network client. -/
def noClient : Git.Failure := ⟨.other, .transport, "there is no network client"⟩

/-- What there is in a world in memory, apart from the files. -/
structure MemoryWorld where
  environment : Environment
  /-- The working directory, which is the directory of the user as well. -/
  directory : String
  session : String
  now : Instant

namespace MemoryWorld

variable (b : MemoryWorld)

/-- A path from the root of the tree. -/
def absolute (path : String) : String :=
  if path.startsWith "/" then path else b.directory ++ "/" ++ path

/-- The text of a file. A path without characters leads nowhere. -/
def read (path : String) (files : Tree) : Except String String :=
  if path = "" then .error AccessError.missing.message
  else (files.readText (b.absolute path)).mapError (·.message)

/-- Writes a file. -/
def write (path text : String) (files : Tree) : Option String × Tree :=
  match files.writeText (b.absolute path) text with
  | .ok files => (none, files)
  | .error e => (some e.message, files)

/-- What the program may do in it; the state is the tree of files. -/
def world : World (StateM Tree) where
  environment := return b.environment
  home? := return (b.environment "HOME").getD b.directory
  isTerminal := return false
  read path := return b.read path (← get)
  tree? path := return (← get).resolve? (b.absolute path)
  fetch _ := return .error noClient
  write path text := modifyGet (b.write path text)
  session := return b.session
  now := return b.now
  deliver url r := (Chat.unreachable url r ()).1

/-- Runs the program on some files, and returns the files that it leaves. -/
def run (arguments : List String) (files : Tree) : Outcome × Tree :=
  (CommandLine.run b.world arguments).run files

end MemoryWorld

end ThreatModel.CommandLine
