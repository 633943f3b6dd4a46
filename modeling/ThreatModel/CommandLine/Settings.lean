import ThreatModel.Methodology
import ThreatModel.Number.Decimal
import ThreatModel.Report.Render
import ThreatModel.Text.Search

/-!
# Settings on the command line

The options of the program and what they set. An option is set once, apart from the two lists of
factors, which may be given in parts.
-/

namespace ThreatModel.CommandLine

/-- An option of the command line. -/
inductive Switch where
  | config
  | verbose
  | noColor
  | logJson
  | framework
  | format
  | output
  | offline
  | likelihood
  | impact
  | version
  | help
  deriving DecidableEq, Repr, Inhabited

namespace Switch

/-- The name behind two hyphens. -/
def name : Switch → String
  | config => "config"
  | verbose => "verbose"
  | noColor => "no-color"
  | logJson => "log-json"
  | framework => "framework"
  | format => "format"
  | output => "output"
  | offline => "offline"
  | likelihood => "likelihood"
  | impact => "impact"
  | version => "version"
  | help => "help"

/-- The letter behind one hyphen. -/
def letter? : Switch → Option Char
  | config => some 'c'
  | verbose => some 'v'
  | output => some 'o'
  | version => some 'V'
  | help => some 'h'
  | _ => none

/-- Whether an option has a value. -/
def takesValue : Switch → Bool
  | config | framework | format | output | likelihood | impact => true
  | _ => false

/-- Options of every command. -/
def general : List Switch := [config, verbose, noColor, logJson, help]

/-- Options of the commands that make a report. -/
def reporting : List Switch := [framework, format, output, offline]

end Switch

/-- Why arguments make no sense. -/
inductive Misuse where
  | noCommand
  | unknownCommand (word : String)
  | unknownOption (word : String)
  | surplus (word : String)
  | missingOperand (name : String)
  | missingOption (s : Switch)
  | missingValue (s : Switch)
  | unwantedValue (s : Switch)
  | invalidValue (s : Switch) (value : String)
  | repeated (s : Switch)
  deriving DecidableEq, Repr, Inhabited

/-- The text of an error. -/
def Misuse.message : Misuse → String
  | noCommand => "a command is needed"
  | unknownCommand word => s!"unrecognized command '{word}'"
  | unknownOption word => s!"unexpected argument '{word}'"
  | surplus word => s!"unexpected argument '{word}'"
  | missingOperand name => s!"the argument <{name}> is needed"
  | missingOption s => s!"the argument '--{s.name}' is needed"
  | missingValue s => s!"a value is needed for '--{s.name}'"
  | unwantedValue s => s!"the argument '--{s.name}' has no value"
  | invalidValue s value => s!"invalid value '{value}' for '--{s.name}'"
  | repeated s => s!"the argument '--{s.name}' is given more than once"

/-- Why reading arguments comes to an end early. -/
inductive Stop where
  /-- The version is asked for. -/
  | version
  /-- Help is asked for. -/
  | help
  | misuse (m : Misuse)
  deriving DecidableEq, Repr, Inhabited

/-- What options set. -/
structure Settings where
  /-- The file with the configuration. -/
  config : Option String := none
  verbose : Bool := false
  noColor : Bool := false
  logJson : Bool := false
  framework : Option Methodology := none
  format : Option Format := none
  /-- The file for the report. -/
  output : Option String := none
  /-- Whether no model is to be asked. -/
  offline : Bool := false
  likelihood : Option (List Nat) := none
  impact : Option (List Nat) := none
  deriving DecidableEq, Repr, Inhabited

/-- A number below 256, which may have a sign. -/
def byteOfText? (cs : List Char) : Option Nat :=
  let (negative, ds) := match cs with
    | '-' :: r => (true, r)
    | '+' :: r => (false, r)
    | r => (false, r)
  let n := ofDigits ds
  if ds.isEmpty || !ds.all Char.isDigit || 255 < n || (negative && n != 0) then none else some n

/-- Numbers with commas in between. -/
def bytesOfText? (s : String) : Option (List Nat) :=
  (Text.splitOn ',' s.toList).mapM byteOfText?

namespace Settings

variable (t : Settings)

/-- The settings after an option that may be given once. -/
def once (s : Switch) (isSet : Bool) (new : Option Settings) (value : String) :
    Except Stop Settings :=
  if isSet then .error (.misuse (.repeated s))
  else match new with
    | some t => .ok t
    | none => .error (.misuse (.invalidValue s value))

/-- The numbers of a list after some more. -/
def more (s : Switch) (old : Option (List Nat)) (value : String) :
    Except Stop (Option (List Nat)) :=
  match bytesOfText? value with
  | some ns => .ok (some (old.getD [] ++ ns))
  | none => .error (.misuse (.invalidValue s value))

/-- The settings after an option; `value` is empty if the option has none. -/
def set (s : Switch) (value : String) : Except Stop Settings :=
  match s with
  | .version => .error .version
  | .help => .error .help
  | .config => once s t.config.isSome (some { t with config := value }) value
  | .verbose => once s t.verbose (some { t with verbose := true }) value
  | .noColor => once s t.noColor (some { t with noColor := true }) value
  | .logJson => once s t.logJson (some { t with logJson := true }) value
  | .offline => once s t.offline (some { t with offline := true }) value
  | .framework =>
    once s t.framework.isSome ((Methodology.ofName? value).map fun m => { t with framework := m })
      value
  | .format =>
    once s t.format.isSome ((Format.ofName? value).map fun f => { t with format := f }) value
  | .output =>
    once s t.output.isSome (if value = "" then none else some { t with output := value }) value
  | .likelihood => (more s t.likelihood value).map fun ns => { t with likelihood := ns }
  | .impact => (more s t.impact value).map fun ns => { t with impact := ns }

/-- The settings of a command, with the general ones that stand in front of it where it has none. -/
def behind (front : Settings) : Settings :=
  { t with
    config := t.config.orElse fun _ => front.config
    verbose := t.verbose || front.verbose
    noColor := t.noColor || front.noColor
    logJson := t.logJson || front.logJson }

end Settings

end ThreatModel.CommandLine
