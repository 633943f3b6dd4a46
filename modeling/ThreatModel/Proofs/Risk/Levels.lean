import ThreatModel.Proofs.Risk.Dominance

/-!
# Levels of rounded averages

A rating reads its levels off averages with two decimals, but rounding moves no average over the
bound of a level: the levels, and with them the severity, are those of the exact averages
(`Rating.levels_of_exact_averages`).

A larger sum of factors never has a lower level, so it is enough to look at the sums next to the two
bounds (`Level.ofScore_bounds`). Every other sum is on the same side of both bounds as one of these
(`Level.ofScore_average`).
-/

namespace ThreatModel

open Precision (double)

namespace Level

/-- The level of an exact average: low below 3, medium below 6, and otherwise high. -/
def ofExact (q : ℚ) : Level :=
  if q < 3 then low
  else if q < 6 then medium
  else high

theorem rank_inj {a b : Level} (h : a.rank = b.rank) : a = b := by
  cases a <;> cases b <;> first | rfl | cases h

theorem rank_le_high (a : Level) : a.rank ≤ high.rank := by
  cases a <;> decide

variable {n s t : ℕ}

/-- The bounds of an average, as bounds of the sum. -/
theorem ofExact_div (hn : 0 < n) :
    ofExact (s / n) = if s < 3 * n then low else if s < 6 * n then medium else high := by
  have hpos : (0 : ℚ) < n := by exact_mod_cast hn
  have hthree : (s / n : ℚ) < 3 ↔ s < 3 * n := by
    rw [div_lt_iff₀ hpos]
    norm_cast
  have hsix : (s / n : ℚ) < 6 ↔ s < 6 * n := by
    rw [div_lt_iff₀ hpos]
    norm_cast
  unfold ofExact
  simp only [hthree, hsix]

theorem ofExact_div_eq_iff (hn : 0 < n) :
    (ofExact (s / n) = low ↔ s < 3 * n) ∧
      (ofExact (s / n) = medium ↔ 3 * n ≤ s ∧ s < 6 * n) ∧
      (ofExact (s / n) = high ↔ 6 * n ≤ s) := by
  rw [ofExact_div hn]
  split_ifs with hthree hsix
  · refine ⟨iff_of_true rfl hthree, iff_of_false (by decide) ?_, iff_of_false (by decide) ?_⟩ <;>
      omega
  · refine ⟨iff_of_false (by decide) hthree, iff_of_true rfl ?_, iff_of_false (by decide) ?_⟩ <;>
      omega
  · refine ⟨iff_of_false (by decide) hthree, iff_of_false (by decide) ?_, iff_of_true rfl ?_⟩ <;>
      omega

/-! ### Computed averages -/

/-- The average of `n` factors with the sum `s`, as it is computed. -/
def average (n s : ℕ) : Binary := round2 (double.div (double.ofNat s) (double.ofNat n))

theorem rank_average_mono (hn : IsGroupSize n) (hst : s ≤ t) (ht : t ≤ maxFactor * n) :
    (ofScore (average n s)).rank ≤ (ofScore (average n t)).rank := by
  have htop : Binary.AtMost (double.ofNat t) (double.ofNat (maxFactor * n)) :=
    double.ofNat_mono double_bits_pos ht (ofNat_sum_nonneg hn)
  have hsums : Binary.AtMost (double.ofNat s) (double.ofNat t) :=
    double.ofNat_mono double_bits_pos hst htop.left
  exact rank_ofScore_mono (monotoneTo_average hn hsums htop)

/-- The levels of the sums on both sides of the two bounds. -/
theorem ofScore_bounds (hn : IsGroupSize n) :
    ofScore (average n (3 * n - 1)) = low ∧ ofScore (average n (3 * n)) = medium ∧
      ofScore (average n (6 * n - 1)) = medium ∧ ofScore (average n (6 * n)) = high := by
  rcases hn with rfl | rfl <;> decide

/-- **The level of a computed average is that of the exact one.** -/
theorem ofScore_average (hn : IsGroupSize n) (hs : s ≤ maxFactor * n) :
    ofScore (average n s) = ofExact (s / n) := by
  have hpos : 0 < n := by rcases hn with rfl | rfl <;> decide
  have hsix : 6 * n ≤ maxFactor * n := Nat.mul_le_mul_right n (by decide)
  obtain ⟨hbelow₃, hat₃, hbelow₆, hat₆⟩ := ofScore_bounds hn
  apply rank_inj
  rw [ofExact_div hpos]
  split_ifs with h₃ h₆
  · have hle := rank_average_mono hn (show s ≤ 3 * n - 1 by omega) (by omega)
    rw [hbelow₃] at hle
    exact Nat.le_zero.1 hle
  · have hge := rank_average_mono hn (Nat.le_of_not_lt h₃) hs
    have hle := rank_average_mono hn (show s ≤ 6 * n - 1 by omega) (by omega)
    rw [hat₃] at hge
    rw [hbelow₆] at hle
    exact Nat.le_antisymm hle hge
  · have hge := rank_average_mono hn (Nat.le_of_not_lt h₆) hs
    rw [hat₆] at hge
    exact Nat.le_antisymm (rank_le_high _) hge

end Level

/-! ### Ratings -/

theorem ofScore_score {xs : List ℕ} (hn : IsGroupSize xs.length)
    (hmax : xs.sum ≤ maxFactor * xs.length) :
    Level.ofScore (score xs) = .ofExact (xs.sum / xs.length) := by
  rw [score_eq_average hn]
  exact Level.ofScore_average hn hmax

namespace Rating

theorem likelihoodLevel_eq_ofExact (l : Likelihood) (i : Impact) :
    (compute l i).likelihoodLevel = .ofExact ((l.clamped.values.sum : ℚ) / 8) := by
  rw [likelihoodLevel_compute, likelihoodScore_compute]
  exact ofScore_score l.clamped.isGroupSize l.sum_clamped_le

theorem impactLevel_eq_ofExact (l : Likelihood) (i : Impact) :
    (compute l i).impactLevel = .ofExact ((i.clamped.values.sum : ℚ) / 4) := by
  rw [impactLevel_compute, impactScore_compute]
  exact ofScore_score i.clamped.isGroupSize i.sum_clamped_le

/-- **Rounding moves no risk over the bound of a level.** With the sums of the factors in range, the
levels are those of the exact averages, and so is the cell of the severity matrix. -/
theorem levels_of_exact_averages (l : Likelihood) (i : Impact) :
    let likelihood := (l.values.map clampFactor).sum
    let impact := (i.values.map clampFactor).sum
    let r := compute l i
    ((r.likelihoodLevel = .low ↔ likelihood < 24) ∧
      (r.likelihoodLevel = .medium ↔ 24 ≤ likelihood ∧ likelihood < 48) ∧
      (r.likelihoodLevel = .high ↔ 48 ≤ likelihood)) ∧
    ((r.impactLevel = .low ↔ impact < 12) ∧
      (r.impactLevel = .medium ↔ 12 ≤ impact ∧ impact < 24) ∧
      (r.impactLevel = .high ↔ 24 ≤ impact)) ∧
    (r.likelihoodLevel = .ofExact ((likelihood : ℚ) / 8) ∧
      r.impactLevel = .ofExact ((impact : ℚ) / 4)) ∧
    r.grade = .ofLevels (.ofExact ((impact : ℚ) / 4)) (.ofExact ((likelihood : ℚ) / 8)) ∧
    r.severity = r.grade.severity := by
  intro likelihood impact r
  have hl : r.likelihoodLevel = .ofExact ((likelihood : ℚ) / 8) := likelihoodLevel_eq_ofExact l i
  have hi : r.impactLevel = .ofExact ((impact : ℚ) / 4) := impactLevel_eq_ofExact l i
  have hgrade : r.grade = .ofLevels r.impactLevel r.likelihoodLevel := by
    simp only [r, compute]
  refine ⟨?_, ?_, ⟨hl, hi⟩, ?_, severity_compute l i⟩
  · rw [hl]
    exact Level.ofExact_div_eq_iff (n := 8) (by decide)
  · rw [hi]
    exact Level.ofExact_div_eq_iff (n := 4) (by decide)
  · rw [hgrade, hl, hi]

end Rating

end ThreatModel
