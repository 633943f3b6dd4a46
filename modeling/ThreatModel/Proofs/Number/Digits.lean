import Mathlib.Data.Nat.Digits.Lemmas
import ThreatModel.Number.Decimal

/-!
# Decimal digits

The digits of a number are digits (`isDigit_of_mem_digitText`), have that number as their value
(`ofDigits_digitText`), have a zero in front for zero only (`head?_digitText_ne_zero`), and are as
many as the number is large (`length_digitText_le`, `pow_length_digitText_le`).
-/

namespace ThreatModel

theorem isDigit_of_mem_digitText {n : ℕ} {c : Char} (h : c ∈ digitText n) : c.isDigit = true :=
  Nat.isDigit_of_mem_toDigits (by decide) (by decide) h

theorem digitText_ne_nil (n : ℕ) : digitText n ≠ [] := Nat.toDigits_ne_nil

theorem ofDigits_eq (ds : List Char) : ofDigits ds = Nat.ofDigitChars 10 ds 0 := rfl

@[simp] theorem ofDigitChars_digitText (n : ℕ) : Nat.ofDigitChars 10 (digitText n) 0 = n :=
  Nat.ofDigitChars_ten_toDigits

@[simp] theorem ofDigits_digitText (n : ℕ) : ofDigits (digitText n) = n := ofDigitChars_digitText n

/-- No number but zero has a zero in front. -/
theorem head?_digitText_ne_zero {n : ℕ} (h : 0 < n) : (digitText n).head? ≠ some '0' := by
  induction n using Nat.strong_induction_on with
  | _ n ih =>
    unfold digitText at ih ⊢
    rw [Nat.toDigits_eq_if (by decide)]
    split_ifs with hn
    · have hall : ∀ n < 10, 0 < n → [n.digitChar].head? ≠ some '0' := by decide
      exact hall n hn h
    · rw [List.head?_append_of_ne_nil _ Nat.toDigits_ne_nil]
      exact ih (n / 10) (by omega) (by omega)

theorem length_digitText_pos (n : ℕ) : 0 < (digitText n).length := Nat.length_toDigits_pos

theorem length_digitText_le {n k : ℕ} (hk : 0 < k) (h : n < 10 ^ k) : (digitText n).length ≤ k :=
  (Nat.length_toDigits_le_iff (by decide) hk).2 h

theorem pow_length_digitText_le {n : ℕ} (hn : 0 < n) : 10 ^ ((digitText n).length - 1) ≤ n := by
  rcases Nat.eq_zero_or_pos ((digitText n).length - 1) with h | h
  · rw [h]
    exact hn
  · refine Nat.le_of_not_lt fun hlt => ?_
    have := length_digitText_le h hlt
    omega

/-! ### Digits in a longer text -/

theorem takeWhile_isDigit_append {ds r : List Char} (hds : ∀ c ∈ ds, c.isDigit = true)
    (hr : ∀ c ∈ r.head?, c.isDigit = false) : (ds ++ r).takeWhile Char.isDigit = ds := by
  rw [List.takeWhile_append_of_pos hds]
  cases r with
  | nil => simp
  | cons c r => simp [hr c rfl]

end ThreatModel
