import ThreatModel.Config.Basic
import ThreatModel.Json.Record

/-!
# Reading settings

Settings as they stand in a file: groups of named settings, all of which may be left out. Settings
that nobody knows are ignored. A group may also list its settings in order.
-/

namespace ThreatModel

open Json (Decoder)

/-- The settings of a group, in the order of their names. -/
def settings (names : List String) : Json → Option (List (Option Json))
  | .object ms => some (names.map (Json.member? ms))
  | .array xs => some (names.mapIdx fun i _ => xs[i]?)
  | _ => none

/-- A setting, or its default. -/
def setting {α : Type} (default : α) (value : Decoder α) : Option Json → Option α
  | none => some default
  | some x => value x

/-- A number in single precision. -/
def single : Decoder Binary
  | .number (.integer n) =>
    if -(Nat.pow 2 63 : Int) ≤ n && n ≤ maxWord then some (Precision.single.ofInt n) else none
  | .number (.double x) => some (Precision.single.convert x)
  | _ => none

/-- A string, or `null`. -/
def nullableString : Decoder (Option String)
  | .null => some none
  | x => (Decoder.string x).map some

/-- Reads how often requests are sent again. -/
def Chat.RetryPolicy.ofJson? : Decoder RetryPolicy := fun x => do
  let p : RetryPolicy := {}
  match ← settings ["max_retries", "base_delay_ms", "max_delay_ms"] x with
  | [retries, base, max] =>
    return ⟨← setting p.maxRetries (.natUpTo maxHalfWord) retries,
      ← setting p.baseDelay (.natUpTo maxWord) base, ← setting p.maxDelay (.natUpTo maxWord) max⟩
  | _ => none

/-- Reads limits. -/
def Limits.ofJson? : Decoder Limits := fun x => do
  let l : Limits := {}
  let names := ["max_file_bytes", "max_files", "max_findings_per_file", "snippet_chars",
    "file_tree_cap", "prompt_findings_cap", "entry_points_cap", "clone_depth", "max_prompt_chars"]
  match ← settings names x with
  | [bytes, files, findings, snippet, tree, shown, entries, depth, prompt] =>
    let word (default : Nat) := setting default (.natUpTo maxWord)
    return {
      maxFileBytes := ← word l.maxFileBytes bytes
      maxFiles := ← word l.maxFiles files
      maxFindingsPerFile := ← word l.maxFindingsPerFile findings
      snippetChars := ← word l.snippetChars snippet
      fileTreeCap := ← word l.fileTreeCap tree
      promptFindingsCap := ← word l.promptFindingsCap shown
      entryPointsCap := ← word l.entryPointsCap entries
      cloneDepth := ← setting l.cloneDepth (.natUpTo maxHalfWord) depth
      maxPromptChars := ← word l.maxPromptChars prompt }
  | _ => none

/-- Reads a mode: its name, or a table with nothing but an empty member of that name. -/
def Mode.ofJson? : Decoder Mode
  | .string s => ofName? s
  | .object [(s, .object [])] => ofName? s
  | .object [(s, .array [])] => ofName? s
  | _ => none

namespace Config

/-- Reads the group of settings that holds the mode. -/
def modeOf? : Decoder Mode := fun x => do
  match ← settings ["mode"] x with
  | [mode] => setting .auto Mode.ofJson? mode
  | _ => none

/-- Reads the settings. -/
def ofJson? : Decoder Config := fun x => do
  let c : Config := {}
  let names := ["endpoint", "model", "max_tokens", "temperature", "api_key", "timeout_secs",
    "retry", "limits", "synthesis"]
  match ← settings names x with
  | [endpoint, model, tokens, temperature, key, timeout, retry, limits, synthesis] =>
    return {
      endpoint := ← setting c.endpoint .string endpoint
      model := ← setting c.model .string model
      maxTokens := ← setting c.maxTokens (.natUpTo maxWord) tokens
      temperature := ← setting c.temperature single temperature
      apiKey := ← setting none nullableString key
      timeoutSeconds := ← setting c.timeoutSeconds (.natUpTo maxWord) timeout
      retry := ← setting c.retry Chat.RetryPolicy.ofJson? retry
      limits := ← setting c.limits Limits.ofJson? limits
      mode := ← setting .auto modeOf? synthesis }
  | _ => none

end Config

end ThreatModel
