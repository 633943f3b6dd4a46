import ThreatModel.Chat.Message
import ThreatModel.Json.Reader
import ThreatModel.Json.Strict

/-!
# Answers of a chat service

What a chat service answers: some choices, of which only the first one counts.
-/

namespace ThreatModel.Chat

open Json (Tree)

/-- One answer that the model gave. -/
structure Choice where
  index : Nat
  message : Message
  /-- Why the model stopped. -/
  finishReason : Option String
  deriving DecidableEq, Repr, Inhabited

/-- How many tokens were used. -/
structure Usage where
  promptTokens : Nat
  completionTokens : Nat
  totalTokens : Nat
  deriving DecidableEq, Repr, Inhabited

/-- The answer of a chat service. -/
structure Response where
  id : String
  model : String
  choices : List Choice
  usage : Option Usage
  deriving DecidableEq, Repr, Inhabited

namespace Response

variable (r : Response)

/-- The text of the first choice. -/
def content? : Option String := r.choices.head?.map (·.message.content)

/-- Whether the model stopped because it had no tokens left. -/
def isTruncated : Bool :=
  match r.choices with
  | c :: _ => c.finishReason == some "length"
  | [] => false

end Response

/-! ### Reading -/

/-- Reads a message. -/
def Message.ofTree? (t : Tree) : Option Message := do
  match ← t.fields? ["role", "content"] 2 with
  | [role, content] =>
    return ⟨← Tree.required Tree.string? role, ← Tree.required Tree.string? content⟩
  | _ => none

/-- Reads a choice. -/
def Choice.ofTree? (t : Tree) : Option Choice := do
  match ← t.fields? ["index", "message", "finish_reason"] 3 with
  | [index, message, reason] =>
    return ⟨← Tree.withDefault 0 (Tree.natUpTo? maxWord) index,
      ← Tree.required Message.ofTree? message,
      ← Tree.withDefault none (Tree.nullable? Tree.string?) reason⟩
  | _ => none

/-- Reads the use of tokens. -/
def Usage.ofTree? (t : Tree) : Option Usage := do
  match (← t.fields? ["prompt_tokens", "completion_tokens", "total_tokens"] 3).mapM
      (Tree.required (Tree.natUpTo? maxWord)) with
  | some [prompt, completion, total] => return ⟨prompt, completion, total⟩
  | _ => none

namespace Response

/-- Reads an answer. -/
def ofTree? (t : Tree) : Option Response := do
  match ← t.fields? ["id", "model", "choices", "usage"] 3 with
  | [id, model, choices, usage] =>
    return {
      id := ← Tree.withDefault "" Tree.string? id
      model := ← Tree.withDefault "" Tree.string? model
      choices := ← Tree.required (Tree.list? Choice.ofTree?) choices
      usage := ← Tree.withDefault none (Tree.nullable? Usage.ofTree?) usage }
  | _ => none

/-- Reads an answer from its text. -/
def ofText? (cs : List Char) : Option Response := (Json.tree? cs).bind ofTree?

end Response

/-! ### Writing -/

/-- The record of a message. -/
def Message.toJson (m : Message) : Json :=
  .object [("role", .string m.role), ("content", .string m.content)]

/-- The record of a choice. -/
def Choice.toJson (c : Choice) : Json :=
  .object [("index", .nat c.index), ("message", c.message.toJson),
    ("finish_reason", .orNull (c.finishReason.map .string))]

/-- The record of the use of tokens. -/
def Usage.toJson (u : Usage) : Json :=
  .object [("prompt_tokens", .nat u.promptTokens), ("completion_tokens", .nat u.completionTokens),
    ("total_tokens", .nat u.totalTokens)]

/-- The record of an answer. -/
def Response.toJson (r : Response) : Json :=
  .object [("id", .string r.id), ("model", .string r.model),
    ("choices", .array (r.choices.map Choice.toJson)),
    ("usage", .orNull (r.usage.map Usage.toJson))]

end ThreatModel.Chat
