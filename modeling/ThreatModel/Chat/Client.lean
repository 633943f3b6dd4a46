import ThreatModel.Chat.Retry
import ThreatModel.Config.Basic
import ThreatModel.Number.Decimal
import ThreatModel.Url.Basic

/-!
# Clients of a chat service

How a chat service is asked. A request is posted to a URL below the endpoint, as often as the retry
policy allows; what comes back is either an answer or one of the failures of a chat. `post` says
what comes back and what becomes of the world meanwhile.

* `attempt_of_not_postable`: nothing is posted where something stands in the way;
* `chat_of_unreachable`: a service that is never reached is tried as often as the policy says.
-/

namespace ThreatModel.Chat

/-! ### Requests -/

/-- What is asked of a chat service. -/
structure Request where
  model : String
  messages : List Message
  /-- How freely the model answers, in single precision. -/
  temperature : Binary
  maxTokens : Nat
  deriving DecidableEq, Repr, Inhabited

/-- The record of a request, which asks for the answer in one piece. -/
def Request.toJson (r : Request) : Json :=
  .object [("model", .string r.model), ("messages", .array (r.messages.map Message.toJson)),
    ("temperature", .number (.double r.temperature.widened)), ("max_tokens", .nat r.maxTokens),
    ("stream", .bool false)]

/-- What comes back when a request is posted. -/
inductive Delivery where
  | reply (status : Nat) (retryAfter : Option Nat) (body : String)
  /-- An answer that broke off, or whose text could not be decoded. -/
  | garbled (reason : String)
  | timedOut
  | failed (reason : String)
  deriving DecidableEq, Repr, Inhabited

/-- The answer in what comes back. -/
def Delivery.response : Delivery → Except Error Response
  | reply status retryAfter body =>
    if 200 ≤ status && status < 300 then Response.ofBody body
    else .error (.ofStatus status body retryAfter)
  | garbled reason => .error (.unreadable reason)
  | timedOut => .error .timeout
  | failed reason => .error (.network reason)

/-! ### Clients -/

/-- A client of a chat service. -/
structure Client where
  /-- The endpoint without slashes at its end. -/
  base : String
  model : String
  temperature : Binary
  maxTokens : Nat
  /-- The key, which is not blank. -/
  key? : Option String
  retry : RetryPolicy
  deriving DecidableEq, Repr, Inhabited

namespace Client

/-- The client that a configuration describes. -/
def ofConfig (c : Config) : Client where
  base := String.ofList ((c.endpoint.toList.reverse.dropWhile (· == '/')).reverse)
  model := c.model
  temperature := c.temperature
  maxTokens := c.maxTokens
  key? := c.apiKey.filter (!Text.isBlankString ·)
  retry := c.retry

variable (c : Client)

/-- Where requests are posted. -/
def url : String := c.base ++ "/chat/completions"

/-- The request with some messages. -/
def request (messages : List Message) : Request := ⟨c.model, messages, c.temperature, c.maxTokens⟩

/-- Whether a character may stand in a header of a request. -/
def isHeaderChar (ch : Char) : Bool := ch == '\t' || (0x20 ≤ ch.toNat && ch.toNat != 0x7F)

/-- Why nothing can be posted, if that is so: the URL is none of the web, or the key fits into no
header. -/
def obstacle? : Option Error :=
  let keyFits := c.key?.all (·.toList.all isHeaderChar)
  match Url.ofText c.url.toList with
  | .error _ => some (.invalidRequest "builder error")
  | .ok u =>
    if ["http", "https"].contains u.scheme && keyFits then none
    else if keyFits || u.host?.isNone then
      some (.invalidRequest s!"builder error for url ({c.url})")
    else some (.invalidRequest "builder error")

variable {σ : Type} (post : String → Request → σ → Delivery × σ)

/-- Posts a request once. -/
def attempt (r : Request) (s : σ) : Except Error Response × σ :=
  match c.obstacle? with
  | some e => (.error e, s)
  | none =>
    let (d, s) := post c.url r s
    (d.response, s)

/-- Asks for the answer to some messages. -/
def chat (messages : List Message) (s : σ) : Except Error Response × σ :=
  send (c.attempt post (c.request messages)) c.retry.maxRetries s

variable {c post}

theorem attempt_of_not_postable {r : Request} {s : σ} {e : Error} (h : c.obstacle? = some e) :
    c.attempt post r s = (.error e, s) := by
  simp [attempt, h]

theorem sendFrom_of_unreachable {once : σ → Except Error Response × σ} {reason : String}
    (h : ∀ s, once s = (.error (.network reason), s)) (made left : Nat) (s : σ) :
    sendFrom once made left s =
      (.error (.retriesExhausted (made + left + 1) (.network reason)), s) := by
  induction left generalizing made with
  | zero => exact sendFrom_zero_of_retryable (h s) rfl
  | succ left ih =>
    rw [sendFrom_succ_of_retryable (h s) rfl, ih]
    simp only [Nat.add_comm, Nat.add_left_comm]

/-- A service that is never reached is tried once and then as often as the policy says. -/
theorem chat_of_unreachable {reason : String} (h : c.obstacle? = none)
    (hp : ∀ r s, post c.url r s = (.failed reason, s)) (messages : List Message) (s : σ) :
    c.chat post messages s =
      (.error (.retriesExhausted (c.retry.maxRetries + 1) (.network reason)), s) := by
  have once : ∀ s, c.attempt post (c.request messages) s = (.error (.network reason), s) :=
    fun s => by simp [attempt, h, hp, Delivery.response]
  rw [chat, send, sendFrom_of_unreachable once, Nat.zero_add]

end Client

/-- The delivery of requests where no service can be reached. -/
def unreachable (url : String) (_ : Request) (s : Unit) : Delivery × Unit :=
  (.failed s!"error sending request for url ({url})", s)

end ThreatModel.Chat
