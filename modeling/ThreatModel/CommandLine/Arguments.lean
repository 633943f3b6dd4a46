import ThreatModel.CommandLine.Settings

/-!
# Arguments of the program

Reads the words of a command line: options with one or two hyphens, the name of a command, and its
operands. Behind a word of two hyphens there are operands only. Options of the whole program may
stand in front of the name of the command or behind it.
-/

namespace ThreatModel.CommandLine

/-! ### Words -/

/-- What remains of some words. -/
abbrev RestOf (ws : List String) := { r : List String // r.length ≤ ws.length }

/-- Whether a word cannot be the value of an option in front of it. -/
def looksLikeOption (w : String) : Bool := w.startsWith "-" && w != "-"

/-- Sets an option to the next word. -/
def setToNext (t : Settings) (s : Switch) (ws : List String) :
    Except Stop (Settings × RestOf ws) :=
  match ws with
  | [] => .error (.misuse (.missingValue s))
  | w :: r =>
    if looksLikeOption w then .error (.misuse (.missingValue s))
    else (t.set s w).map fun t => (t, ⟨r, Nat.le_succ _⟩)

/-- Reads an option from what stands behind two hyphens, and from the words that follow. -/
def readLong (allowed : List Switch) (t : Settings) (body : List Char) (ws : List String) :
    Except Stop (Settings × RestOf ws) :=
  let (name, value?) := match Text.splitFirst? '=' body with
    | some (name, value) => (String.ofList name, some (String.ofList value))
    | none => (String.ofList body, none)
  match allowed.find? (·.name == name) with
  | none => .error (.misuse (.unknownOption ("--" ++ name)))
  | some s =>
    match s.takesValue, value? with
    | true, some value => (t.set s value).map (·, ⟨ws, Nat.le_refl _⟩)
    | true, none => setToNext t s ws
    | false, some _ => .error (.misuse (.unwantedValue s))
    | false, none => (t.set s "").map (·, ⟨ws, Nat.le_refl _⟩)

/-- Reads options from the letters behind one hyphen; one with a value is the last of them. -/
def readLetters (allowed : List Switch) (ws : List String) (t : Settings) :
    (letters : List Char) → Except Stop (Settings × RestOf ws)
  | [] => .ok (t, ⟨ws, Nat.le_refl _⟩)
  | c :: r =>
    match allowed.find? (·.letter? == some c) with
    | none => .error (.misuse (.unknownOption (String.ofList ['-', c])))
    | some s =>
      if s.takesValue then
        match r with
        | [] => setToNext t s ws
        | '=' :: value | value => (t.set s (String.ofList value)).map (·, ⟨ws, Nat.le_refl _⟩)
      else
        match t.set s "" with
        | .error e => .error e
        | .ok t => readLetters allowed ws t r

/-- Reads the option in a word that looks like one, and its value. -/
def readOption (allowed : List Switch) (t : Settings) (w : String) (ws : List String) :
    Except Stop (Settings × RestOf ws) :=
  match w.toList with
  | '-' :: '-' :: body => readLong allowed t body ws
  | _ :: letters => readLetters allowed ws t letters
  | [] => .ok (t, ⟨ws, Nat.le_refl _⟩)

/-- Operands, of which there may be `room` many. -/
def operandsOf (room : Nat) (ws : List String) : Except Stop (List String) :=
  match ws.drop room with
  | [] => .ok ws
  | w :: _ => .error (.misuse (.surplus w))

/-- Reads the options and operands of a command; of operands there may be `room` many. -/
def readWords (allowed : List Switch) (room : Nat) (t : Settings) : (ws : List String) →
    Except Stop (Settings × List String)
  | [] => .ok (t, [])
  | w :: ws =>
    if w = "--" then (operandsOf room ws).map (t, ·)
    else if looksLikeOption w then
      match readOption allowed t w ws with
      | .error e => .error e
      | .ok (t, ⟨r, _⟩) => readWords allowed room t r
    else
      match room with
      | 0 => .error (.misuse (.surplus w))
      | room + 1 => (readWords allowed room t ws).map fun (t, operands) => (t, w :: operands)
termination_by ws => ws.length

/-- Reads the options in front of the name of a command, which is returned with what follows. -/
def readFront (t : Settings) : (ws : List String) → Except Stop (Settings × String × List String)
  | [] => .error (.misuse .noCommand)
  | w :: ws =>
    -- Behind two hyphens there is no command any more.
    if w = "--" then .error (.misuse ((ws.head?.map Misuse.surplus).getD .noCommand))
    else if looksLikeOption w then
      match readOption (.version :: Switch.general) t w ws with
      | .error e => .error e
      | .ok (t, ⟨r, _⟩) => readFront t r
    else .ok (t, w, ws)
termination_by ws => ws.length

/-! ### Commands -/

/-- What is to be done. -/
inductive Command where
  /-- Report on a repository or a directory. -/
  | analyze (source : String)
  /-- Report on a document. -/
  | document (path : String)
  /-- Draw a repository or a directory. -/
  | diagram (source : String)
  /-- Rate factors. -/
  | rate (likelihood impact : List Nat)
  deriving DecidableEq, Repr, Inhabited

/-- What the arguments of the program say. -/
structure Arguments where
  command : Command
  settings : Settings
  deriving DecidableEq, Repr, Inhabited

/-- The only operand of a command. -/
def operand (name : String) (operands : List String) : Except Stop String :=
  match operands with
  | w :: _ => .ok w
  | [] => .error (.misuse (.missingOperand name))

/-- The only operand of a command, which may not be empty. -/
def pathOperand (name : String) (operands : List String) : Except Stop String := do
  let path ← operand name operands
  if path = "" then throw (.misuse (.missingOperand name))
  return path

/-- The numbers that have to be given. -/
def numbers (s : Switch) : Option (List Nat) → Except Stop (List Nat)
  | some ns => .ok ns
  | none => .error (.misuse (.missingOption s))

/-- Reads what follows the name of a command. -/
def Command.ofWords (name : String) (ws : List String) : Except Stop (Command × Settings) :=
  let report := readWords (Switch.reporting ++ Switch.general) 1 {} ws
  match name with
  | "analyze" | "a" => do
    let (t, operands) ← report
    return (.analyze (← operand "SOURCE" operands), t)
  | "document" => do
    let (t, operands) ← report
    return (.document (← pathOperand "FILE" operands), t)
  | "diagram" => do
    let (t, operands) ← readWords Switch.general 1 {} ws
    return (.diagram (← operand "SOURCE" operands), t)
  | "rate" => do
    let (t, _) ← readWords ([.likelihood, .impact] ++ Switch.general) 0 {} ws
    return (.rate (← numbers .likelihood t.likelihood) (← numbers .impact t.impact), t)
  | _ => .error (.misuse (.unknownCommand name))

/-- The names of the commands, with their other names. -/
def commandNames : List String := ["analyze", "a", "document", "diagram", "rate", "help"]

/-- What asking for help on a command comes to. -/
def helpOn : List String → Stop
  | [] => .help
  | [w] => if commandNames.contains w then .help else .misuse (.unknownCommand w)
  | _ :: w :: _ => .misuse (.unknownCommand w)

/-- Reads the arguments of the program. -/
def Arguments.ofWords (ws : List String) : Except Stop Arguments := do
  let (front, name, ws) ← readFront {} ws
  if name = "help" then throw (helpOn ws)
  let (command, t) ← Command.ofWords name ws
  return ⟨command, t.behind front⟩

end ThreatModel.CommandLine
