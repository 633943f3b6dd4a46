import ThreatModel.Chat.Client
import ThreatModel.CommandLine.Arguments
import ThreatModel.Config.Load
import ThreatModel.Pipeline
import ThreatModel.Source.Locator
import ThreatModel.Source.Repository
import ThreatModel.Source.Walk

/-!
# Running the program

What the program does with its arguments. All it needs to know of the world is in a `World`, so that
it runs in any monad that offers that. Arguments that make no sense end it before it looks at the
world (`run_of_stop`), and with nothing on the standard output (`output_outcome_misuse`).
-/

namespace ThreatModel.CommandLine

/-- What the program needs to know of the world, and may do to it. -/
structure World (m : Type → Type) where
  environment : m Environment
  /-- The directory of the user. -/
  home? : m (Option String)
  /-- Whether the standard output is a terminal. -/
  isTerminal : m Bool
  /-- The text of a file, or why it cannot be read. -/
  read : String → m (Except String String)
  /-- What is at a path. -/
  tree? : String → m (Option Tree)
  /-- A copy of a repository. -/
  fetch : String → m (Except Git.Failure Tree)
  /-- Writes a file, unless there is a reason not to. -/
  write : String → String → m (Option String)
  /-- Names the run. -/
  session : m String
  now : m Instant
  /-- How the chat service answers. -/
  deliver : String → Chat.Request → Chat.Delivery

/-- How the program ends and what it says. -/
structure Outcome where
  exit : Nat
  /-- What goes to the standard output. -/
  output : String := ""
  /-- The lines that go to the standard error. -/
  messages : List String := []
  deriving DecidableEq, Repr, Inhabited

/-- The name and the version of the program. -/
def versionText : String := "threatscope 0.1.0\n"

/-- How the program is used. -/
def helpText : String :=
  "Usage: threatscope [OPTIONS] <COMMAND>\n\nCommands:\n" ++
    "  analyze   Threat-model a repository URL or local directory\n" ++
    "  document  Threat-model a design document\n" ++
    "  diagram   Print the architecture diagram (Mermaid) for a source\n" ++
    "  rate      Rate one threat from raw OWASP factors\n"

/-- The exit code for arguments that make no sense. -/
def misuseCode : Nat := 2

/-- What is said when reading the arguments came to an end early. -/
def Stop.outcome : Stop → Outcome
  | version => { exit := Exit.success.code, output := versionText }
  | help => { exit := Exit.success.code, output := helpText }
  | misuse m => { exit := misuseCode, messages := ["error: " ++ m.message] }

/-- How the program ends after a failure. -/
def failed (f : Failure) : Outcome :=
  { exit := f.exit.code, messages := ["Error: " ++ f.message] }

variable {m : Type → Type} [Monad m] (w : World m)

/-! ### Configuration -/

/-- A path with the directory of the user in place of a tilde at its front. -/
def expandHome (home? : Option String) (path : String) : String :=
  match home?, Text.afterLead? "~/".toList path.toList with
  | some home, some ('/' :: r) => if home = "" then path else String.ofList ('/' :: r)
  | some home, some r => home ++ (if home.endsWith "/" then "" else "/") ++ String.ofList r
  | _, _ => path

/-- The file at a path, if it can be read. -/
def found? (path : String) : m (Option (String × String)) := do
  return ((← w.read path).toOption).map (path, ·)

/-- The configuration: from the file that is asked for, or from the usual places. -/
def configure (file : Option String) : m (Run Config) := do
  let home? ← w.home?
  let env ← w.environment
  let loaded ← match file with
    | some path =>
      let path := expandHome home? path
      pure (Config.load (some (path, ← w.read path)) [] env)
    | none =>
      let inDirectory ← found? w Config.localFile
      let atHome ← match home? with
        | some home => found? w (Config.homeFile home)
        | none => pure none
      pure (Config.load none (inDirectory.toList ++ atHome.toList) env)
  return loaded.mapError fun e => { cause := .configuration e.message }

/-! ### Colors -/

/-- Whether a variable is there and is no zero. -/
def isOn (env : Environment) (name : String) : Bool := (env name).any (· != "0")

/-- Whether the report on the standard output has colors. Forcing them counts for more than anything
but an option, or a variable that is there to turn them off. -/
def hasColors (env : Environment) (t : Settings) (isTerminal : Bool) : Bool :=
  !t.noColor && (env "NO_COLOR").isNone &&
    (isOn env "CLICOLOR_FORCE" || ((env "CLICOLOR").all (· != "0") && isTerminal))

/-! ### Commands -/

/-- What finds the threats. -/
def synthesizer (c : Config) : Synthesizer :=
  match c.origin with
  | .rules => .rules
  | .model =>
    let client := Chat.Client.ofConfig c
    .model fun ms => (client.chat (fun url r s => (w.deliver url r, s)) ms ()).1

/-- The sources at a locator, with the name of the system. -/
def sources (c : Config) (text : String) : m (Run (String × SourceSet)) := do
  let path := Text.trimmed text
  let isDirectory := ((← w.tree? path).map (·.isDirectory)).getD false
  match Locator.ofText (fun _ => isDirectory) text with
  | .error e => return .fail (.collection e)
  | .ok l =>
    let tree ← match l with
      | .directory path => pure (.ok (← w.tree? path))
      | .remote url => pure (((← w.fetch url).map some).mapError (·.classify url))
    match tree.bind (collect c.limits l.display) with
    | .error e => return .fail (.collection e)
    | .ok s => return .ok (l.display, s)

/-- The name of a document: the last part of its path. -/
def documentName (path : String) : String :=
  match (Tree.parts path).getLast? with
  | some name => if name = ".." then path else name
  | none => path

/-- The report that a command asks for. -/
def report (c : Config) (t : Settings) : Command → m (Run Report)
  | .document path => do
    match ← w.read path with
    | .error reason =>
      return Run.within s!"Failed to read document {path}" (.fail (.other reason))
    | .ok text =>
      let s : Session := ⟨← w.session, ← w.now, c.limits⟩
      return s.documentReport (documentName path) text (t.framework.getD .stride) (synthesizer w c)
  | .analyze source => do
    match ← sources w c source with
    | .error f => return .error f
    | .ok (name, files) =>
      let s : Session := ⟨← w.session, ← w.now, c.limits⟩
      return s.sourceReport name files (t.framework.getD .stride) (synthesizer w c)
  | _ => return .fail (.internal "no report")

/-- Writes a report to the file that is asked for, or to the standard output. -/
def emit (t : Settings) (r : Report) : m (Run Outcome) := do
  let format := t.format.getD .text
  match t.output with
  | some path =>
    match ← w.write path (r.render false format) with
    | some reason =>
      return Run.within s!"Failed to write report to {path}" (.fail (.other reason))
    | none =>
      return .ok { exit := Exit.success.code, messages := ["Report written to " ++ path] }
  | none =>
    let color := hasColors (← w.environment) t (← w.isTerminal)
    let text := r.render color format
    return .ok { exit := Exit.success.code,
                 output := if text.endsWith "\n" then text else text ++ "\n" }

/-- Does what a command asks for. -/
def perform (c : Config) (t : Settings) (command : Command) : m (Run Outcome) := do
  match command with
  | .rate likelihood impact =>
    match Rating.ofLists likelihood impact with
    | .error e => return .fail (.configuration e.message)
    | .ok r =>
      return .ok { exit := Exit.success.code,
                   output := String.ofList (Json.pretty r.toJson) ++ "\n" }
  | .diagram source =>
    match ← sources w c source with
    | .error f => return .error f
    | .ok (_, files) =>
      return .ok { exit := Exit.success.code, output := Diagram.render (analyze files c.limits) }
  | .analyze _ | .document _ =>
    -- The option counts for more than the file and the environment.
    let c := if t.offline then { c with mode := .rules } else c
    match ← report w c t command with
    | .error f => return .error f
    | .ok r => emit w t r

/-- Runs the program. -/
def run (arguments : List String) : m Outcome := do
  match Arguments.ofWords arguments with
  | .error stop => return stop.outcome
  | .ok a =>
    match ← configure w a.settings.config with
    | .error f => return failed f
    | .ok c =>
      match ← perform w c a.settings a.command with
      | .error f => return failed f
      | .ok o => return o

variable {w}

@[simp] theorem output_outcome_misuse (e : Misuse) : (Stop.misuse e).outcome.output = "" := rfl

theorem run_of_stop {arguments : List String} {s : Stop}
    (h : Arguments.ofWords arguments = .error s) : run w arguments = pure s.outcome := by
  simp [run, h]

end ThreatModel.CommandLine
