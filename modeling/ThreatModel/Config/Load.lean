import ThreatModel.Config.Json
import ThreatModel.Toml.Document

/-!
# Loading the configuration

Settings come from the first file that there is, and variables of the environment override them.
-/

namespace ThreatModel

/-- Why there is no configuration. -/
inductive ConfigError where
  /-- A file that was asked for cannot be read. -/
  | unreadable (path reason : String)
  /-- A file does not hold settings; one that was not asked for is named. -/
  | malformed (path : Option String)
  deriving DecidableEq, Repr

namespace ConfigError

/-- What failed. -/
def headline : ConfigError → String
  | unreadable path _ => "Failed to read config from " ++ path
  | malformed none => "Failed to parse config"
  | malformed (some path) => "Failed to parse config " ++ path

/-- What failed, and why. -/
def message : ConfigError → String
  | unreadable path reason => (unreadable path reason).headline ++ ": " ++ reason
  | malformed path => (malformed path).headline ++ ": TOML parse error"

end ConfigError

/-- An environment: the values of its variables. -/
abbrev Environment := String → Option String

/-- A number without a sign, or with a plus, that fits in a word. -/
def wordOfText? (s : String) : Option Nat :=
  let ds := match s.toList with
    | '+' :: r => r
    | r => r
  if ds.isEmpty || !ds.all Char.isDigit || maxWord < ofDigits ds then none else some (ofDigits ds)

namespace Config

/-- The settings in the text of a file. -/
def ofText? (text : String) : Option Config := (Toml.read? text.toList).bind ofJson?

/-- The name of the file in the working directory. -/
def localFile : String := "threatscope.toml"

/-- The path of the file in a home directory. -/
def homeFile (home : String) : String :=
  home ++ (if home.endsWith "/" then "" else "/") ++ ".config/threatscope/config.toml"

/-- The key for the chat service: the variable of this program counts most, that of other programs
least. -/
def keyFrom (env : Environment) (key : Option String) : Option String :=
  (env "THREATSCOPE_API_KEY").orElse fun _ => key.orElse fun _ => env "OPENAI_API_KEY"

/-- Overrides settings by variables of the environment. Variables that make no sense are ignored. -/
def override (env : Environment) (c : Config) : Config :=
  { c with
    endpoint := (env "THREATSCOPE_ENDPOINT").getD c.endpoint
    model := (env "THREATSCOPE_MODEL").getD c.model
    apiKey := keyFrom env c.apiKey
    maxTokens := ((env "THREATSCOPE_MAX_TOKENS").bind wordOfText?).getD c.maxTokens
    timeoutSeconds := ((env "THREATSCOPE_TIMEOUT").bind wordOfText?).getD c.timeoutSeconds
    mode := ((env "THREATSCOPE_SYNTHESIS").bind fun s => (Mode.ofText s).toOption).getD c.mode }

/-- The settings in the files: `given` is the path of a file that was asked for and what came of
reading it, `found` are the paths and texts of the files in the usual places. -/
def ofFiles (given : Option (String × Except String String)) (found : List (String × String)) :
    Except ConfigError Config :=
  match given, found with
  | some (path, .error reason), _ => .error (.unreadable path reason)
  | some (_, .ok text), _ => ((ofText? text).map Except.ok).getD (.error (.malformed none))
  | none, (path, text) :: _ =>
    ((ofText? text).map Except.ok).getD (.error (.malformed (some path)))
  | none, [] => .ok {}

/-- Loads the configuration. -/
def load (given : Option (String × Except String String)) (found : List (String × String))
    (env : Environment) : Except ConfigError Config :=
  (ofFiles given found).map (override env)

end Config

end ThreatModel
