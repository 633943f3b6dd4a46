/-!
# Rounding of quotients

The two ways in which this library rounds a quotient of natural numbers to a whole number. Both
give a neighbour of the exact quotient (`div_le_halfEven`, `halfEven_le`, `div_le_halfAway`,
`halfAway_le`); they differ only on exact halves.
-/

namespace ThreatModel.Rounding

/-- The whole number nearest to `num / den`; an exact half goes to the even neighbour. -/
def halfEven (num den : Nat) : Nat :=
  let q := num / den
  let r := num % den
  if 2 * r < den || (2 * r == den && q % 2 == 0) then q else q + 1

/-- The whole number nearest to `num / den`; an exact half goes up. -/
def halfAway (num den : Nat) : Nat := (2 * num + den) / (2 * den)

theorem div_le_halfEven (num den : Nat) : num / den ≤ halfEven num den := by
  unfold halfEven
  dsimp only
  split <;> omega

theorem halfEven_le (num den : Nat) : halfEven num den ≤ num / den + 1 := by
  unfold halfEven
  dsimp only
  split <;> omega

theorem div_le_halfAway {num den : Nat} (h : 0 < den) : num / den ≤ halfAway num den := by
  unfold halfAway
  rw [Nat.le_div_iff_mul_le (by omega)]
  have := Nat.div_mul_le_self num den
  calc num / den * (2 * den) = 2 * (num / den * den) := by
        rw [Nat.mul_left_comm]
    _ ≤ 2 * num + den := by omega

theorem halfAway_le {num den : Nat} (h : 0 < den) : halfAway num den ≤ num / den + 1 := by
  unfold halfAway
  have h1 : num < (num / den + 1) * den := Nat.lt_mul_of_div_lt (by omega) h
  have h2 : 2 * num + den < (num / den + 1 + 1) * (2 * den) := by
    have e : (num / den + 1 + 1) * (2 * den) = 2 * ((num / den + 1) * den) + 2 * den := by
      rw [Nat.add_mul, Nat.one_mul, Nat.mul_left_comm]
    omega
  exact Nat.lt_succ_iff.1 ((Nat.div_lt_iff_lt_mul (by omega)).2 h2)

end ThreatModel.Rounding
