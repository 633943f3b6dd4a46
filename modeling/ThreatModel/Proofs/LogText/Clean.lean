import Mathlib
import ThreatModel.Proofs.LogText.Secrets

/-!
# Clean logs

A text that has been made safe for a log holds no control character and no secret. An escape has
printed characters of ASCII only, and so has the mark, so that control characters neither stay nor
come in. Texts without secrets are those that redaction leaves alone (`redacted_eq_self_iff`), so a
second redaction finds nothing to do. `safe_isClean` has all of this.
-/

namespace ThreatModel.LogText

open Pattern Text

variable {c d : Char} {cs : List Char}

/-! ### Control characters -/

theorem not_isControl_hexDigit {n : ℕ} (h : n < 16) : isControl (hexDigit n) = false := by
  have hall : ∀ n < 16, isControl (hexDigit n) = false := by decide
  exact hall n h

theorem not_isControl_of_mem_escape (hc : isControl c = true) (hd : d ∈ escape c) :
    isControl d = false := by
  have hcode : c.toNat < 0xA0 := by
    simp only [isControl, Bool.or_eq_true, Bool.and_eq_true, decide_eq_true_eq] at hc
    omega
  unfold escape at hd
  split at hd
  all_goals simp only [List.mem_cons, List.not_mem_nil, or_false] at hd
  -- The escape by number comes first, then those that have a letter.
  rotate_left 5
  · rcases hd with rfl | rfl | rfl | rfl | rfl | rfl
    · decide
    · decide
    · decide
    · decide
    · exact not_isControl_hexDigit (by omega)
    · exact not_isControl_hexDigit (Nat.mod_lt _ (by decide))
  all_goals rcases hd with rfl | rfl <;> decide

theorem not_isControl_of_mem_sanitized (h : d ∈ sanitized cs) : isControl d = false := by
  obtain ⟨c, -, hd⟩ := List.mem_flatMap.1 h
  split at hd
  next hc => exact not_isControl_of_mem_escape hc hd
  next hc =>
    rw [List.mem_singleton.1 hd]
    simpa using hc

theorem not_isControl_of_mem_mark (h : d ∈ mark) : isControl d = false := by
  have hall : ∀ c ∈ ['[', 'R', 'E', 'D', 'A', 'C', 'T', 'E', 'D', ']'], isControl c = false :=
    forall_mem_of_all (by decide)
  exact hall d (mark_eq ▸ h)

/-- Redaction brings in no control character. -/
theorem not_isControl_of_mem_safe (h : d ∈ safe cs) : isControl d = false := by
  rcases mem_foldl_replaceAll (fun _ => consumes_of_mem) h with h | h
  · exact not_isControl_of_mem_sanitized h
  · exact not_isControl_of_mem_mark h

/-! ### Secrets -/

theorem occursIn_redacted {p : Pattern} (hp : p ∈ secretPatterns) (cs : List Char) :
    p.occursIn (redacted cs) = false :=
  (occursIn_eq_false_iff (isFree_of_mem hp)).2 fun _ hw => not_isInfix_redacted hp hw cs

/-- Redaction leaves alone the texts without secrets, and no others. -/
theorem redacted_eq_self_iff :
    redacted cs = cs ↔ ∀ p ∈ secretPatterns, p.occursIn cs = false := by
  constructor
  · intro h p hp
    rw [← h]
    exact occursIn_redacted hp cs
  · intro h
    exact foldl_replaceAll_of_forall (fun _ => consumes_of_mem) fun p hp =>
      (occursIn_eq_false_iff (isFree_of_mem hp)).1 (h p hp)

/-! ### Both passes -/

/-- **A safe text is clean.** It holds no control character and no secret; and what has been redacted
once is not changed by another redaction. -/
theorem safe_isClean (cs : List Char) :
    (∀ c ∈ safe cs, isControl c = false) ∧
      (∀ p ∈ secretPatterns, p.occursIn (safe cs) = false) ∧
      redacted (redacted cs) = redacted cs :=
  ⟨fun _ => not_isControl_of_mem_safe, fun _ hp => occursIn_redacted hp (sanitized cs),
    redacted_eq_self_iff.2 fun _ hp => occursIn_redacted hp cs⟩

/-- The value that is assigned reaches into the mark of a token. -/
example : safe "secret:\nBearer 0123456789".toList = "[REDACTED]".toList := by cbv

end ThreatModel.LogText
