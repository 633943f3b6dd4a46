import ThreatModel.Proofs.Risk.Score

/-!
# Larger factors are rated at least as high

Factors dominate others if, brought into range, none of them is smaller. The rating of dominating
factors is at least the other one in every respect: scores, levels, severity and overall score
(`Rating.atLeast_compute`).

Scores keep the order of sums (`Rating.atMost_overallScore`). A level depends on the bounds that a
score does not reach, and a larger score reaches more of them (`Level.rank_ofScore_mono`); the
matrix of severities keeps the order of both levels (`Grade.rank_severity_mono`).
-/

namespace ThreatModel

open Binary (AtMost)

/-! ### Levels and severities -/

/-- A larger score has at least the same level. -/
theorem Level.rank_ofScore_mono {x y : Binary} (h : AtMost x y) :
    (ofScore x).rank ≤ (ofScore y).rank := by
  have hbelow {b : Binary} (hb : b.isFinite = true) (hy : y.lt b = true) : x.lt b = true :=
    (Binary.lt_iff h.left.1 hb).2 (h.le.trans_lt ((Binary.lt_iff h.right.1 hb).1 hy))
  unfold ofScore
  by_cases hthree : y.lt (.finite false 3 0) = true
  · rw [if_pos hthree, if_pos (hbelow rfl hthree)]
  · rw [if_neg hthree]
    by_cases hsix : y.lt (.finite false 6 0) = true
    · rw [if_pos hsix, if_pos (hbelow rfl hsix)]
      split_ifs <;> decide
    · rw [if_neg hsix]
      split_ifs <;> decide

/-- The matrix of severities keeps the order of impact and of likelihood. -/
theorem Grade.rank_severity_mono {i i' l l' : Level} (hi : i.rank ≤ i'.rank)
    (hl : l.rank ≤ l'.rank) :
    (ofLevels i l).severity.rank ≤ (ofLevels i' l').severity.rank := by
  cases i <;> cases i' <;> cases l <;> cases l' <;> revert hi hl <;> decide

/-! ### Domination -/

/-- In range, none of the likelihood factors is smaller. -/
def Likelihood.Dominates (l l' : Likelihood) : Prop :=
  List.Forall₂ (· ≤ ·) l'.clamped.values l.clamped.values

/-- In range, none of the impact factors is smaller. -/
def Impact.Dominates (i i' : Impact) : Prop :=
  List.Forall₂ (· ≤ ·) i'.clamped.values i.clamped.values

instance (l l' : Likelihood) : Decidable (l.Dominates l') :=
  inferInstanceAs (Decidable (List.Forall₂ _ _ _))

instance (i i' : Impact) : Decidable (i.Dominates i') :=
  inferInstanceAs (Decidable (List.Forall₂ _ _ _))

namespace Rating

variable {l l' : Likelihood} {i i' : Impact}

/-- A rating is at least another one in every respect; all scores are finite and not negative. -/
structure AtLeast (r s : Rating) : Prop where
  likelihoodScore : AtMost s.likelihoodScore r.likelihoodScore
  impactScore : AtMost s.impactScore r.impactScore
  likelihoodLevel : s.likelihoodLevel.rank ≤ r.likelihoodLevel.rank
  impactLevel : s.impactLevel.rank ≤ r.impactLevel.rank
  severity : s.severity.rank ≤ r.severity.rank
  overallScore : AtMost s.overallScore r.overallScore

theorem likelihoodLevel_compute (l : Likelihood) (i : Impact) :
    (compute l i).likelihoodLevel = .ofScore (compute l i).likelihoodScore := by
  rw [compute]

theorem impactLevel_compute (l : Likelihood) (i : Impact) :
    (compute l i).impactLevel = .ofScore (compute l i).impactScore := by
  rw [compute]

theorem severity_compute_eq (l : Likelihood) (i : Impact) :
    (compute l i).severity =
      (Grade.ofLevels (compute l i).impactLevel (compute l i).likelihoodLevel).severity := by
  rw [compute]

/-- **Dominating factors are rated at least as high.** -/
theorem atLeast_compute (hl : l.Dominates l') (hi : i.Dominates i') :
    AtLeast (compute l i) (compute l' i') := by
  have hls : AtMost (compute l' i').likelihoodScore (compute l i).likelihoodScore :=
    atMost_likelihoodScore (List.Forall₂.sum_le_sum hl)
  have his : AtMost (compute l' i').impactScore (compute l i).impactScore :=
    atMost_impactScore (List.Forall₂.sum_le_sum hi)
  have hll : (compute l' i').likelihoodLevel.rank ≤ (compute l i).likelihoodLevel.rank := by
    rw [likelihoodLevel_compute, likelihoodLevel_compute]
    exact Level.rank_ofScore_mono hls
  have hil : (compute l' i').impactLevel.rank ≤ (compute l i).impactLevel.rank := by
    rw [impactLevel_compute, impactLevel_compute]
    exact Level.rank_ofScore_mono his
  refine ⟨hls, his, hll, hil, ?_, ?_⟩
  · rw [severity_compute_eq, severity_compute_eq]
    exact Grade.rank_severity_mono hil hll
  · exact atMost_overallScore (List.Forall₂.sum_le_sum hl) (List.Forall₂.sum_le_sum hi)

end Rating

end ThreatModel
