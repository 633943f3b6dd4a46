import ThreatModel.Proofs.Number.Monotone
import ThreatModel.Risk.Rating

/-!
# Scores keep the order of factors

The scores of a rating are computed with rounding, but larger sums of factors never give smaller
scores (`atMost_score`, `Rating.atMost_overallScore`), and no score leaves the range of doubles
(`Rating.overallScore_nonneg`).

Every step from a sum to a score keeps the order of the values up to that of the largest factors,
and takes this one, which is a whole number, to a whole number.
-/

namespace ThreatModel

open Binary (AtMost MonotoneTo)
open Precision (double)

variable {n : ℕ} {xs ys : List ℕ}

theorem double_bits_pos : 0 < double.bits := by decide

/-! ### The steps of a score -/

/-- Rounding to whole hundredths keeps the order of scores. -/
theorem monotoneTo_hundredths :
    MonotoneTo (double.ofNat 81) fun x => double.round (double.mul x (double.ofNat 100)) := by
  have hmul : MonotoneTo (double.ofNat 81) fun x => double.mul x (double.ofNat 100) :=
    double.monotoneTo_mul double_bits_pos (by decide) (by decide)
  have hround : MonotoneTo (double.ofNat 8100) double.round :=
    double.monotoneTo_round double_bits_pos (by decide)
  exact hround.comp hmul (by decide)

theorem hundredths_max :
    double.round (double.mul (double.ofNat 81) (double.ofNat 100)) = double.ofNat 8100 := by
  decide

/-- Rounding to two decimals keeps the order of scores. -/
theorem monotoneTo_round2 : MonotoneTo (double.ofNat 81) round2 := by
  have hdiv : MonotoneTo (double.ofNat 8100) fun x => double.div x (double.ofNat 100) :=
    double.monotoneTo_div double_bits_pos (by decide) (Binary.value_pos (by decide) (by decide))
      (by decide)
  exact hdiv.comp monotoneTo_hundredths hundredths_max

/-- The numbers of factors that are averaged. -/
def IsGroupSize (n : ℕ) : Prop := n = 4 ∨ n = 8

/-- A quotient by the number of factors keeps the order of sums. -/
theorem monotoneTo_mean (hn : IsGroupSize n) :
    MonotoneTo (double.ofNat (maxFactor * n)) fun x => double.div x (double.ofNat n) := by
  rcases hn with rfl | rfl
  · refine double.monotoneTo_div double_bits_pos (by decide) ?_ (by decide)
    exact Binary.value_pos (by decide) (by decide)
  · refine double.monotoneTo_div double_bits_pos (by decide) ?_ (by decide)
    exact Binary.value_pos (by decide) (by decide)

theorem mean_max (hn : IsGroupSize n) :
    double.div (double.ofNat (maxFactor * n)) (double.ofNat n) = double.ofNat maxFactor := by
  rcases hn with rfl | rfl <;> decide

/-- An average keeps the order of sums up to that of the largest factors. -/
theorem monotoneTo_average (hn : IsGroupSize n) :
    MonotoneTo (double.ofNat (maxFactor * n)) fun x => round2 (double.div x (double.ofNat n)) := by
  have hround2 : MonotoneTo (double.ofNat maxFactor) round2 :=
    monotoneTo_round2.mono (double.ofNat_mono double_bits_pos (by decide) (by decide))
  exact hround2.comp (monotoneTo_mean hn) (mean_max hn)

theorem average_max (hn : IsGroupSize n) :
    round2 (double.div (double.ofNat (maxFactor * n)) (double.ofNat n)) =
      double.ofNat maxFactor := by
  rcases hn with rfl | rfl <;> decide

/-! ### Scores of factors -/

theorem score_eq_average (hn : IsGroupSize xs.length) :
    score xs = round2 (double.div (double.ofNat xs.sum) (double.ofNat xs.length)) := by
  have hne : xs.isEmpty = false := by
    rcases hn with h | h <;> (cases xs <;> first | rfl | cases h)
  rw [score, hne]
  rfl

theorem ofNat_sum_nonneg (hn : IsGroupSize n) : (double.ofNat (maxFactor * n)).Nonneg := by
  rcases hn with rfl | rfl <;> decide

/-- **Larger sums of factors have larger scores.** -/
theorem atMost_score (hn : IsGroupSize ys.length) (hsum : xs.sum ≤ ys.sum)
    (hlen : xs.length = ys.length) (hmax : ys.sum ≤ maxFactor * ys.length) :
    AtMost (score xs) (score ys) := by
  have htop : AtMost (double.ofNat ys.sum) (double.ofNat (maxFactor * ys.length)) :=
    double.ofNat_mono double_bits_pos hmax (ofNat_sum_nonneg hn)
  have hsums : AtMost (double.ofNat xs.sum) (double.ofNat ys.sum) :=
    double.ofNat_mono double_bits_pos hsum htop.left
  rw [score_eq_average (hlen ▸ hn), score_eq_average hn, hlen]
  exact monotoneTo_average hn hsums htop

theorem atMost_score_maxFactor (hn : IsGroupSize xs.length)
    (hmax : xs.sum ≤ maxFactor * xs.length) : AtMost (score xs) (double.ofNat maxFactor) := by
  have htop : AtMost (double.ofNat xs.sum) (double.ofNat (maxFactor * xs.length)) :=
    double.ofNat_mono double_bits_pos hmax (ofNat_sum_nonneg hn)
  rw [score_eq_average hn, ← average_max hn]
  exact monotoneTo_average hn htop (.refl (ofNat_sum_nonneg hn))

namespace Likelihood

theorem isGroupSize (l : Likelihood) : IsGroupSize l.values.length := .inr (length_values l)

theorem sum_clamped_le (l : Likelihood) :
    l.clamped.values.sum ≤ maxFactor * l.clamped.values.length := by
  rw [Nat.mul_comm]
  exact List.sum_le_card_nsmul _ _ fun _ => le_of_mem_clamped

end Likelihood

namespace Impact

theorem isGroupSize (i : Impact) : IsGroupSize i.values.length := .inl (length_values i)

theorem sum_clamped_le (i : Impact) :
    i.clamped.values.sum ≤ maxFactor * i.clamped.values.length := by
  rw [Nat.mul_comm]
  exact List.sum_le_card_nsmul _ _ fun _ => le_of_mem_clamped

end Impact

namespace Rating

variable {l l' : Likelihood} {i i' : Impact}

@[simp] theorem likelihoodScore_compute (l : Likelihood) (i : Impact) :
    (compute l i).likelihoodScore = score l.clamped.values := by
  rw [compute]

@[simp] theorem impactScore_compute (l : Likelihood) (i : Impact) :
    (compute l i).impactScore = score i.clamped.values := by
  rw [compute]

@[simp] theorem overallScore_compute (l : Likelihood) (i : Impact) :
    (compute l i).overallScore =
      round2 (double.mul (score l.clamped.values) (score i.clamped.values)) := by
  rw [compute]

theorem atMost_likelihoodScore (h : l.clamped.values.sum ≤ l'.clamped.values.sum) :
    AtMost (compute l i).likelihoodScore (compute l' i').likelihoodScore := by
  rw [likelihoodScore_compute, likelihoodScore_compute]
  exact atMost_score l'.clamped.isGroupSize h rfl l'.sum_clamped_le

theorem atMost_impactScore (h : i.clamped.values.sum ≤ i'.clamped.values.sum) :
    AtMost (compute l i).impactScore (compute l' i').impactScore := by
  rw [impactScore_compute, impactScore_compute]
  exact atMost_score i'.clamped.isGroupSize h rfl i'.sum_clamped_le

/-- No product of two scores is larger than that of the largest scores. -/
theorem atMost_product (l : Likelihood) (i : Impact) :
    AtMost (double.mul (score l.clamped.values) (score i.clamped.values)) (double.ofNat 81) := by
  have hls := atMost_score_maxFactor l.clamped.isGroupSize l.sum_clamped_le
  have his := atMost_score_maxFactor i.clamped.isGroupSize i.sum_clamped_le
  have hproduct : double.mul (double.ofNat maxFactor) (double.ofNat maxFactor) =
      double.ofNat 81 := by decide
  rw [← hproduct]
  exact double.mul_mono double_bits_pos hls his (by decide)

/-- **Larger factors have larger overall scores**: it is enough that the two sums are larger. -/
theorem atMost_overallScore (hl : l.clamped.values.sum ≤ l'.clamped.values.sum)
    (hi : i.clamped.values.sum ≤ i'.clamped.values.sum) :
    AtMost (compute l i).overallScore (compute l' i').overallScore := by
  have hls : AtMost (compute l i).likelihoodScore (compute l' i').likelihoodScore :=
    atMost_likelihoodScore hl
  have his : AtMost (compute l i).impactScore (compute l' i').impactScore := atMost_impactScore hi
  rw [likelihoodScore_compute, likelihoodScore_compute] at hls
  rw [impactScore_compute, impactScore_compute] at his
  have hmax := atMost_product l' i'
  rw [overallScore_compute, overallScore_compute]
  exact monotoneTo_round2 (double.mul_mono double_bits_pos hls his hmax.left) hmax

/-- An overall score is finite and has no minus sign. -/
theorem overallScore_nonneg (l : Likelihood) (i : Impact) : (compute l i).overallScore.Nonneg :=
  (atMost_overallScore (le_refl l.clamped.values.sum) (le_refl i.clamped.values.sum)).left

end Rating

end ThreatModel
