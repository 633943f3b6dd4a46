import Mathlib
import ThreatModel.Number.Binary

/-!
# The numbers that floating-point values stand for

`Binary.value` reads a finite value as a rational number. Comparing two values compares these
numbers (`Binary.lt_iff`), and the quotients in which the operations compute are such numbers.

`Rounding.halfEven` and `Rounding.halfAway` keep the order of quotients (`Rounding.halfEven_mono`,
`Rounding.halfAway_mono`) and whole numbers (`Rounding.halfEven_one`).
-/

namespace ThreatModel

/-! ### Powers of two -/

/-- The two whole powers that the operations keep a power of two in. -/
theorem two_zpow_eq_div (e : ℤ) :
    (2 : ℚ) ^ e = (Nat.pow 2 e.toNat : ℕ) / (Nat.pow 2 (-e).toNat : ℕ) := by
  obtain ⟨n, rfl | rfl⟩ := Int.eq_nat_or_neg e
  · simp
  · simp

theorem two_zpow_pos (e : ℤ) : 0 < (2 : ℚ) ^ e := zpow_pos (by norm_num) e

theorem two_zpow_le {e f : ℤ} (h : e ≤ f) : (2 : ℚ) ^ e ≤ 2 ^ f :=
  zpow_le_zpow_right₀ (by norm_num) h

theorem two_zpow_lt_iff {e f : ℤ} : (2 : ℚ) ^ e < 2 ^ f ↔ e < f :=
  zpow_lt_zpow_iff_right₀ (by norm_num)

theorem cast_two_pow_pos (n : ℕ) : 0 < ((Nat.pow 2 n : ℕ) : ℚ) := by
  simp

/-! ### Rounding of quotients -/

namespace Rounding

variable {a b c d n : ℕ}

/-- The whole part keeps the order of quotients. -/
theorem div_le_div_of_mul_le (hb : 0 < b) (hd : 0 < d) (h : a * d ≤ c * b) : a / b ≤ c / d := by
  rw [Nat.le_div_iff_mul_le hd]
  refine Nat.le_of_mul_le_mul_right ?_ hb
  calc a / b * d * b = a / b * b * d := Nat.mul_right_comm ..
    _ ≤ a * d := Nat.mul_le_mul_right d (Nat.div_mul_le_self a b)
    _ ≤ c * b := h

/-- Quotients with one whole part are in the order of what is beyond it. -/
theorem mod_mul_le_of_mul_le (hq : a / b = c / d) (h : a * d ≤ c * b) :
    a % b * d ≤ c % d * b := by
  have ha := Nat.div_add_mod a b
  have hc := Nat.div_add_mod c d
  rw [← ha, ← hc, hq, Nat.add_mul, Nat.add_mul] at h
  have hwhole : b * (c / d) * d = d * (c / d) * b := by ring
  omega

/-- **Rounding to the nearest whole number keeps the order of quotients.** -/
theorem halfEven_mono (hb : 0 < b) (hd : 0 < d) (h : a * d ≤ c * b) :
    halfEven a b ≤ halfEven c d := by
  have hle := div_le_div_of_mul_le hb hd h
  have hceil := halfEven_le a b
  have hfloor := div_le_halfEven c d
  by_cases hq : a / b = c / d
  · -- Both have one whole part, and the larger one is rounded up if the smaller one is.
    have hrest : 2 * (a % b) * d ≤ 2 * (c % d) * b := by
      rw [Nat.mul_assoc, Nat.mul_assoc]
      exact Nat.mul_le_mul_left 2 (mod_mul_le_of_mul_le hq h)
    have hlt (hx : b < 2 * (a % b)) : d < 2 * (c % d) := by
      refine Nat.lt_of_mul_lt_mul_right (a := b) ?_
      calc d * b = b * d := Nat.mul_comm ..
        _ < 2 * (a % b) * d := Nat.mul_lt_mul_of_pos_right hx hd
        _ ≤ 2 * (c % d) * b := hrest
    have hle' (hx : b ≤ 2 * (a % b)) : d ≤ 2 * (c % d) := by
      refine Nat.le_of_mul_le_mul_right ?_ hb
      calc d * b = b * d := Nat.mul_comm ..
        _ ≤ 2 * (a % b) * d := Nat.mul_le_mul_right d hx
        _ ≤ 2 * (c % d) * b := hrest
    simp only [halfEven, Bool.or_eq_true, Bool.and_eq_true, decide_eq_true_eq, beq_iff_eq, hq]
    split_ifs <;> omega
  · omega

/-- Whole numbers are not rounded. -/
@[simp] theorem halfEven_one (n : ℕ) : halfEven n 1 = n := by
  simp [halfEven, Nat.mod_one]

theorem halfEven_le_of_le (hb : 0 < b) (h : a ≤ n * b) : halfEven a b ≤ n := by
  rw [← halfEven_one n]
  exact halfEven_mono hb Nat.one_pos (by rwa [Nat.mul_one])

theorem le_halfEven_of_le (hb : 0 < b) (h : n * b ≤ a) : n ≤ halfEven a b := by
  conv_lhs => rw [← halfEven_one n]
  exact halfEven_mono Nat.one_pos hb (by rwa [Nat.mul_one])

/-- Rounding halves up keeps the order of quotients. -/
theorem halfAway_mono (hb : 0 < b) (hd : 0 < d) (h : a * d ≤ c * b) :
    halfAway a b ≤ halfAway c d := by
  refine div_le_div_of_mul_le (by omega) (by omega) ?_
  calc (2 * a + b) * (2 * d) = 4 * (a * d) + 2 * (b * d) := by ring
    _ ≤ 4 * (c * b) + 2 * (b * d) := by omega
    _ = (2 * c + d) * (2 * b) := by ring

end Rounding

/-! ### Values -/

namespace Binary

variable {x y : Binary}

/-- The number that a finite value stands for; zero for what is not finite. -/
def value : Binary → ℚ
  | finite s m e => (if s then -1 else 1) * (m * 2 ^ e)
  | _ => 0

/-- A finite value without a minus sign. -/
def Nonneg (x : Binary) : Prop := x.isFinite = true ∧ x.isNegative = false

instance (x : Binary) : Decidable x.Nonneg := inferInstanceAs (Decidable (_ ∧ _))

theorem nonneg_finite (m : ℕ) (e : ℤ) : (finite false m e).Nonneg := ⟨rfl, rfl⟩

theorem Nonneg.exists_eq (h : x.Nonneg) : ∃ m e, x = finite false m e := by
  cases x with
  | finite s m e =>
    obtain rfl : s = false := h.2
    exact ⟨m, e, rfl⟩
  | infinite s => cases h.1
  | nan => cases h.1

@[simp] theorem value_finite (m : ℕ) (e : ℤ) : (finite false m e).value = m * 2 ^ e := by
  simp [value]

/-- A quotient in other units is that number over the unit. -/
theorem inUnits_div (num den : ℕ) (e : ℤ) :
    ((inUnits num den e).1 : ℚ) / (inUnits num den e).2 = num / den / 2 ^ e := by
  rw [two_zpow_eq_div, inUnits]
  push_cast
  rw [div_div_eq_mul_div, div_mul_eq_mul_div, div_div]

theorem inUnits_pos {den : ℕ} (h : 0 < den) (num : ℕ) (e : ℤ) : 0 < (inUnits num den e).2 :=
  Nat.mul_pos h (Nat.pow_pos (by decide))

theorem cast_inUnits_pos {den : ℕ} (h : 0 < den) (num : ℕ) (e : ℤ) :
    (0 : ℚ) < (inUnits num den e).2 := by
  exact_mod_cast inUnits_pos h num e

theorem signed_div (s : Bool) (m : ℕ) (e : ℤ) :
    ((signed s m e).1 : ℚ) / (signed s m e).2 = (finite s m e).value := by
  rw [value, two_zpow_eq_div, signed]
  cases s
  · push_cast
    simp [mul_div_assoc]
  · push_cast
    simp [mul_div_assoc, neg_div]

theorem signed_pos (s : Bool) (m : ℕ) (e : ℤ) : 0 < ((signed s m e).2 : ℚ) :=
  cast_two_pow_pos (-e).toNat

/-- **Finite values compare as their numbers.** -/
theorem lt_iff (hx : x.isFinite = true) (hy : y.isFinite = true) :
    x.lt y = true ↔ x.value < y.value := by
  cases x with
  | finite s m e =>
    cases y with
    | finite s' m' e' =>
      rw [← signed_div s m e, ← signed_div s' m' e',
        div_lt_div_iff₀ (signed_pos ..) (signed_pos ..), lt, decide_eq_true_eq]
      norm_cast
    | infinite _ => cases hy
    | nan => cases hy
  | infinite _ => cases hx
  | nan => cases hx

theorem value_pos (h : x.isFinite = true) (hlt : (finite false 0 0).lt x = true) : 0 < x.value := by
  have hzero : (finite false 0 0).value = 0 := by simp
  rw [← hzero]
  exact (lt_iff rfl h).1 hlt

end Binary

end ThreatModel
