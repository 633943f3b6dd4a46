import Std.Time
import ThreatModel.CommandLine.MemoryWorld

/-!
# The program

Runs the command line in the world of the process: its files, its environment and its clock. The
program brings no network client, so that repositories elsewhere are not fetched and requests to
chat services are not delivered.
-/

namespace ThreatModel.CommandLine

/-- Why the operating system refuses something. -/
def reasonOf : IO.Error → String
  | .noFileOrDirectory .. => AccessError.missing.message
  | .permissionDenied .. => "Permission denied (os error 13)"
  | .inappropriateType _ 20 _ => AccessError.notADirectory.message
  | .inappropriateType _ 21 _ => AccessError.isADirectory.message
  | e => toString e

/-- The value of an action, or why the operating system refuses it. -/
def attempt {α : Type} (action : IO α) : IO (Except String α) := do
  match ← action.toBaseIO with
  | .ok a => return .ok a
  | .error e => return .error (reasonOf e)

/-- The text of a file. -/
def readText (path : String) : IO (Except String String) := do
  match ← attempt (IO.FS.readBinFile path) with
  | .error reason => return .error reason
  | .ok bytes =>
    match String.fromUTF8? bytes with
    | some text => return .ok text
    | none => return .error AccessError.notText.message

/-- What is at a path; directories that are not looked into are left out. -/
partial def treeAt? (path : String) : IO (Option Tree) := do
  match ← (IO.FS.realPath path).toBaseIO with
  | .error _ => return none
  | .ok place =>
    if ← place.isDir then
      let mut entries := #[]
      for e in ← place.readDir do
        unless excludedDirectories.contains e.fileName do
          let kind := (← e.path.symlinkMetadata).type
          if kind == .symlink then entries := entries.push (e.fileName, Tree.link "")
          else if let some t ← treeAt? e.path.toString then
            entries := entries.push (e.fileName, t)
      return some (.directory entries.toList)
    else if ← place.pathExists then
      let size := (← place.metadata).byteSize.toNat
      return some (.file size (← readText path).toOption)
    else return none

/-- The variables that the program looks at. -/
def variableNames : List String :=
  ["THREATSCOPE_ENDPOINT", "THREATSCOPE_MODEL", "THREATSCOPE_API_KEY", "OPENAI_API_KEY",
    "THREATSCOPE_MAX_TOKENS", "THREATSCOPE_TIMEOUT", "THREATSCOPE_SYNTHESIS", "NO_COLOR",
    "CLICOLOR", "CLICOLOR_FORCE"]

/-- The environment of the process. -/
def environment : IO Environment := do
  let values ← variableNames.mapM fun k => return (k, ← IO.getEnv k)
  return fun k => (values.lookup k).join

/-- A name for a run: random, in the form of a universal identifier. -/
def randomName : IO String := do
  let bytes := (← IO.getRandomBytes 16).toList.map (·.toNat)
  let bytes := bytes.set 6 (0x40 + bytes.getD 6 0 % 16)
  let bytes := bytes.set 8 (0x80 + bytes.getD 8 0 % 64)
  let digits := bytes.flatMap fun b => [Text.hexDigit (b / 16), Text.hexDigit (b % 16)]
  let part (start count : Nat) := String.ofList ((digits.drop start).take count)
  return "-".intercalate [part 0 8, part 8 4, part 12 4, part 16 4, part 20 12]

/-- The world that the process runs in. -/
def world : World IO where
  environment := environment
  home? := return (← IO.getEnv "HOME").filter (· != "")
  isTerminal := do (← IO.getStdout).isTty
  read := readText
  tree? := treeAt?
  fetch := fun _ => return .error noClient
  write := fun path text => do
    match ← attempt (IO.FS.writeFile path text) with
    | .ok () => return none
    | .error reason => return some reason
  session := randomName
  now := do
    return .ofNanoseconds (← Std.Time.Timestamp.now).toNanosecondsSinceUnixEpoch.toInt
  deliver := fun url r => (Chat.unreachable url r ()).1

end ThreatModel.CommandLine

/-- Runs the program with its arguments. -/
def main (arguments : List String) : IO UInt32 := do
  let o ← ThreatModel.CommandLine.run ThreatModel.CommandLine.world arguments
  IO.print o.output
  for line in o.messages do IO.eprintln line
  return o.exit.toUInt32
