import Mathlib
import ThreatModel.Chat.Retry

/-!
# Waits in exact arithmetic

The wait before a retry is worked out in 64-bit words, in which products stop at the largest one.
None of that shows (`RetryPolicy.wait_exact`): the bound on waits is a word itself, so that a product
too large for a word is above the bound, and stopping at the largest word and then at the bound is
stopping at the bound. The wait is what the unbounded formula gives, grows with the number of the
retry, and is never beyond its bound.
-/

namespace ThreatModel.Chat

/-- The seconds that a failure asks to wait. -/
def Error.retryAfter? : Error → Option ℕ
  | rateLimit seconds? => seconds?
  | _ => none

namespace RetryPolicy

variable (p : RetryPolicy) {retry : ℕ} {e : Error}

/-- The wait before a retry, were it not bounded. -/
def unbounded (retry : ℕ) : ℕ := p.baseDelay * 2 ^ min (retry - 1) maxDoublings

theorem unbounded_mono : Monotone p.unbounded := by
  intro a b h
  have hexp : min (a - 1) maxDoublings ≤ min (b - 1) maxDoublings :=
    min_le_min_right _ (Nat.sub_le_sub_right h 1)
  exact Nat.mul_le_mul_left _ (Nat.pow_le_pow_right Nat.two_pos hexp)

theorem wait_of_none (h : e.retryAfter? = none) : p.wait retry e = p.delay retry := by
  unfold wait
  split
  next => cases h
  next => rfl

theorem wait_of_some {seconds : ℕ} (h : e.retryAfter? = some seconds) :
    p.wait retry e = min (max (p.delay retry) (saturatingMul seconds 1000)) p.maxDelay := by
  unfold Error.retryAfter? at h
  split at h
  next =>
    subst h
    rfl
  next => cases h

variable {p}

theorem delay_eq (hmax : p.maxDelay ≤ maxWord) (retry : ℕ) :
    p.delay retry = min p.maxDelay (p.unbounded retry) := by
  rw [delay, min_saturatingMul hmax, Nat.pow_eq, min_comm]
  rfl

/-- A word that is asked for may be too large in milliseconds, and still counts as it is. -/
theorem wait_eq_of_some (hmax : p.maxDelay ≤ maxWord) {seconds : ℕ}
    (h : e.retryAfter? = some seconds) :
    p.wait retry e = min p.maxDelay (max (p.unbounded retry) (1000 * seconds)) := by
  calc p.wait retry e
      = max (min (p.delay retry) p.maxDelay)
          (min (saturatingMul seconds 1000) p.maxDelay) := by
        rw [p.wait_of_some h, min_max_distrib_right]
    _ = max (min p.maxDelay (p.unbounded retry)) (min p.maxDelay (1000 * seconds)) := by
        rw [min_eq_left (p.delay_le retry), delay_eq hmax, min_saturatingMul hmax,
          min_comm (seconds * 1000), Nat.mul_comm]
    _ = min p.maxDelay (max (p.unbounded retry) (1000 * seconds)) :=
        (min_max_distrib_left _ _ _).symm

theorem wait_mono (hmax : p.maxDelay ≤ maxWord) (e : Error) :
    Monotone fun retry => p.wait retry e := by
  intro a b h
  have hle := p.unbounded_mono h
  dsimp only
  cases hafter : e.retryAfter? with
  | none =>
    rw [p.wait_of_none hafter, p.wait_of_none hafter, delay_eq hmax, delay_eq hmax]
    exact min_le_min_left _ hle
  | some seconds =>
    rw [wait_eq_of_some hmax hafter, wait_eq_of_some hmax hafter]
    exact min_le_min_left _ (max_le_max_right _ hle)

/-- **Waits are exact.** Whatever the delays of a policy are, the wait before a retry is the first
delay, doubled for every retry before it but twenty times at most, or what the service asks for if
that is longer, and the longest delay if this is longer still. For one failure it grows with the
number of the retry, and it is never beyond the longest delay. -/
theorem wait_exact (base longest : UInt64) (maxRetries : ℕ) (e : Error) :
    let p : RetryPolicy := ⟨maxRetries, base.toNat, longest.toNat⟩
    let doubled (retry : ℕ) := base.toNat * 2 ^ min (retry - 1) 20
    (e.retryAfter? = none → ∀ retry, p.wait retry e = min longest.toNat (doubled retry)) ∧
    (∀ seconds, e.retryAfter? = some seconds → ∀ retry,
      p.wait retry e = min longest.toNat (max (doubled retry) (1000 * seconds))) ∧
    (Monotone fun retry => p.wait retry e) ∧ ∀ retry, p.wait retry e ≤ longest.toNat := by
  intro p doubled
  have hmax : p.maxDelay ≤ maxWord := Nat.le_sub_one_of_lt longest.toNat_lt
  refine ⟨fun h retry => ?_, fun seconds h retry => wait_eq_of_some hmax h, wait_mono hmax e,
    fun retry => p.wait_le retry e⟩
  rw [p.wait_of_none h, delay_eq hmax]
  rfl

/-- The largest delays, and the longest wait that a service can ask for. -/
theorem wait_exact_of_largest :
    let word : UInt64 := 18446744073709551615
    let p : RetryPolicy := ⟨3, word.toNat, word.toNat⟩
    Error.retryAfter? (.rateLimit (some word.toNat)) = some word.toNat ∧
      Error.retryAfter? .timeout = none ∧
      p.wait 1 (.rateLimit (some word.toNat)) = word.toNat ∧
      p.wait (2 ^ 32 - 1) .timeout = word.toNat := by
  intro word p
  have hasked := (wait_exact word word 3 (.rateLimit (some word.toNat))).2.1 _ rfl 1
  have hfree := (wait_exact word word 3 .timeout).1 rfl (2 ^ 32 - 1)
  exact ⟨rfl, rfl, hasked.trans (by decide +kernel), hfree.trans (by decide +kernel)⟩

end RetryPolicy

end ThreatModel.Chat
