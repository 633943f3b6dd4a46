import ThreatModel.Chat.Response
import ThreatModel.Text.Blank

/-!
# Failures of a chat

Why a model gives no answer, and which failures are worth another attempt. `Error.ofStatus` classes
the refusals of a service; what it quotes of their text is bounded (`length_refusalText_le`).
-/

namespace ThreatModel.Chat

open Json (Tree)

/-- Why there is no answer. -/
inductive Error where
  | timeout
  | rateLimit (retryAfter : Option Nat)
  | authentication (reason : String)
  | status (code : Nat) (reason : String)
  | unreadable (reason : String)
  | network (reason : String)
  | invalidRequest (reason : String)
  | emptyResponse
  | retriesExhausted (attempts : Nat) (last : Error)
  deriving DecidableEq, Repr, Inhabited

namespace Error

/-- The text of an error. -/
def message : Error → String
  | timeout => "API Request timed out"
  | rateLimit none => "Rate limit exceeded. Retry after None seconds"
  | rateLimit (some n) => s!"Rate limit exceeded. Retry after Some({n}) seconds"
  | authentication reason => "Authentication failed: " ++ reason
  | status code reason => s!"API returned status {code}: {reason}"
  | unreadable reason => "Failed to parse API response: " ++ reason
  | network reason => "Network error: " ++ reason
  | invalidRequest reason => "Invalid request: " ++ reason
  | emptyResponse => "Model returned an empty response"
  | retriesExhausted attempts last =>
    s!"Model call failed after {attempts} attempts: " ++ last.message

/-- Whether another attempt may succeed. -/
def isRetryable : Error → Bool
  | timeout | rateLimit _ | network _ => true
  | status code _ => decide (500 ≤ code)
  | _ => false

/-! ### Refusals -/

/-- The message in the record of a refusal. -/
def refusalMessage? (t : Tree) : Option String := do
  match ← t.fields? ["error"] 1 with
  | [error] =>
    match ← (← error).fields? ["message", "type"] 1 with
    | [message, kind] =>
      let s ← Tree.required Tree.string? message
      let _ ← Tree.withDefault none (Tree.nullable? Tree.string?) kind
      return s
    | _ => none
  | _ => none

/-- How many characters of a refusal are quoted. -/
def maxQuoted : Nat := 500

/-- The front of a text, with three dots if that is not all. -/
def quotation (cs : List Char) : List Char :=
  if cs.length ≤ maxQuoted then cs else cs.take maxQuoted ++ ['.', '.', '.']

/-- What a refusal says: the message in its record, or the front of its text. -/
def refusalText (body : String) : String :=
  match (Json.tree? body.toList).bind refusalMessage? with
  | some s => s
  | none => String.ofList (quotation (Text.trim body.toList))

/-- The error of a refusal. -/
def ofStatus (code : Nat) (body : String) (retryAfter : Option Nat) : Error :=
  match code with
  | 401 | 403 => authentication (refusalText body)
  | 429 => rateLimit retryAfter
  | 408 | 504 => timeout
  | _ => status code (refusalText body)

theorem length_quotation_le (cs : List Char) : (quotation cs).length ≤ maxQuoted + 3 := by
  unfold quotation
  split
  · omega
  · simp only [List.length_append, List.length_take, List.length_cons, List.length_nil]
    omega

end Error

/-- The answer in the text of a service; a blank one does not count. -/
def Response.ofBody (body : String) : Except Error Response :=
  match Response.ofText? body.toList with
  | none => .error (.unreadable "response JSON")
  | some r =>
    match r.content? with
    | some s => if Text.isBlankString s then .error .emptyResponse else .ok r
    | none => .error .emptyResponse

end ThreatModel.Chat
