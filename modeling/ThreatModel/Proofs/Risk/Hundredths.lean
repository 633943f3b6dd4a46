import ThreatModel.Proofs.Number.Exact
import ThreatModel.Proofs.Risk.Score

/-!
# Scores are hundredths

Every score of a rating is the double nearest to a number of hundredths, at most 8100 of them
(`Rating.hundredths_compute`).

Rounding to two decimals makes a whole number of hundredths, which is not larger than that of the
largest product of scores, and divides it by a hundred. Both numbers have few bits, so the division
rounds their quotient once.
-/

namespace ThreatModel

open Binary (AtMost)
open Precision (double)

/-- The double nearest to a number of hundredths, no more than the largest risk has. -/
def InHundredths (x : Binary) : Prop := ∃ n ≤ 8100, x = double.nearest false n 100

/-- A whole number whose double is at most that of another is not larger. -/
theorem le_of_atMost_ofNat {m n : ℕ} (hn : n < 2 ^ 52)
    (h : AtMost (double.ofNat m) (double.ofNat n)) : m ≤ n := by
  by_contra hlt
  have hunits := Precision.hasUnits_double
  -- The successor of the other number is exact, too, and not larger than the first double.
  have hle := (double.ofNat_mono double_bits_pos (Nat.lt_of_not_le hlt) h.left).trans h
  have hvalue := hle.le
  rw [Precision.value_ofNat hunits (show n + 1 < 2 ^ 53 by omega),
    Precision.value_ofNat hunits (show n < 2 ^ 53 by omega)] at hvalue
  have : n + 1 ≤ n := by exact_mod_cast hvalue
  omega

/-- **A score that is rounded to two decimals is a number of hundredths.** -/
theorem inHundredths_round2 {x : Binary} (h : AtMost x (double.ofNat 81)) :
    InHundredths (round2 x) := by
  have hproduct : AtMost (double.mul x (double.ofNat 100))
      (double.mul (double.ofNat 81) (double.ofNat 100)) :=
    double.monotoneTo_mul double_bits_pos (by decide) (by decide) h (.refl h.right)
  have hwhole := monotoneTo_hundredths h (.refl h.right)
  obtain ⟨m, e, hx⟩ := hproduct.left.exists_eq
  simp only [hx, hundredths_max] at hwhole
  have hle := le_of_atMost_ofNat (by decide) hwhole
  refine ⟨_, hle, ?_⟩
  rw [round2, hx]
  exact Precision.div_ofNat Precision.hasUnits_double (hle.trans_lt (by decide)) (by decide)
    (by decide)

theorem inHundredths_score {xs : List ℕ} (hn : IsGroupSize xs.length)
    (hmax : xs.sum ≤ maxFactor * xs.length) : InHundredths (score xs) := by
  have hsum : AtMost (double.ofNat xs.sum) (double.ofNat (maxFactor * xs.length)) :=
    double.ofNat_mono double_bits_pos hmax (ofNat_sum_nonneg hn)
  have hmean := monotoneTo_mean hn hsum (.refl hsum.right)
  simp only [mean_max hn] at hmean
  rw [score_eq_average hn]
  exact inHundredths_round2
    (hmean.trans (double.ofNat_mono double_bits_pos (by decide) (by decide)))

namespace Rating

/-- The scores of a rating are numbers of hundredths. -/
structure Hundredths (r : Rating) : Prop where
  likelihoodScore : InHundredths r.likelihoodScore
  impactScore : InHundredths r.impactScore
  overallScore : InHundredths r.overallScore

/-- **Every score of a rating is a number of hundredths.** -/
theorem hundredths_compute (l : Likelihood) (i : Impact) : (compute l i).Hundredths where
  likelihoodScore := by
    rw [likelihoodScore_compute]
    exact inHundredths_score l.clamped.isGroupSize l.sum_clamped_le
  impactScore := by
    rw [impactScore_compute]
    exact inHundredths_score i.clamped.isGroupSize i.sum_clamped_le
  overallScore := by
    rw [overallScore_compute]
    exact inHundredths_round2 (atMost_product l i)

end Rating

end ThreatModel
