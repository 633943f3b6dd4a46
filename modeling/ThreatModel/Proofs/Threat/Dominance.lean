import ThreatModel.Proofs.Risk.Dominance
import ThreatModel.Proofs.Threat.Order
import ThreatModel.Rules.Threats

/-!
# Dominating threats come first

If no factor of a draft is smaller than that of another one in the same list, its threat is rated at
least as high in every respect, and it stands in front of the other one in the register unless the
two agree in severity and overall score (`dominating_first`).

A register is sorted by a key in which severity and overall score come first, and the key of a
dominating threat is smaller as soon as one of the two is larger (`rankKey_lt_of_atLeast`).
-/

namespace ThreatModel

variable {ds : List Draft} {d e : Draft} {r s : ThreatRecord} {i j : ℕ}

/-- In range, no factor of a draft is smaller than that of another. -/
def Draft.Dominates (d e : Draft) : Prop :=
  d.likelihood.Dominates e.likelihood ∧ d.impact.Dominates e.impact

instance (d e : Draft) : Decidable (d.Dominates e) := inferInstanceAs (Decidable (_ ∧ _))

/-- The key of a record that is rated at least as high is smaller, unless only the titles can
differ. -/
theorem rankKey_lt_of_atLeast (hseverity : s.severity.rank ≤ r.severity.rank)
    (hscore : s.scoreValue ≤ r.scoreValue)
    (hne : ¬ (r.severity = s.severity ∧ r.scoreValue = s.scoreValue)) : r.rankKey < s.rankKey := by
  refine lt_of_le_of_ne ?_ fun heq => hne ?_
  · rw [ThreatRecord.rankKey_le_iff, ThreatRecord.Precedes]
    rcases hseverity.lt_or_eq with hlt | heq
    · exact .inl hlt
    · have hsame : r.severity = s.severity := Severity.rank_inj_iff.1 heq.symm
      have hdiffer : s.scoreValue ≠ r.scoreValue := fun h => hne ⟨hsame, h.symm⟩
      exact .inr ⟨hsame, .inl (lt_of_le_of_ne hscore hdiffer)⟩
  · obtain ⟨hsame, hscores, -⟩ := ThreatRecord.rankKey_eq_iff.1 heq
    exact ⟨hsame, hscores⟩

/-- **A dominating threat never ranks below a dominated one.** It is rated at least as high in every
respect, and its record stands in front of the other one unless severity and overall score are both
equal. -/
theorem dominating_first (hd : ds[i]? = some d) (he : ds[j]? = some e) (h : d.Dominates e) :
    ∃ r s, (recordsOf ds)[i]? = some r ∧ (recordsOf ds)[j]? = some s ∧
      r.risk.AtLeast s.risk ∧ s.severity.rank ≤ r.severity.rank ∧
      (¬ (r.severity = s.severity ∧ r.scoreValue = s.scoreValue) →
        [r, s].Sublist (register ds)) := by
  have hr := getElem?_recordsOf ds i
  have hs := getElem?_recordsOf ds j
  rw [hd, Option.map_some] at hr
  rw [he, Option.map_some] at hs
  have hrisk := Rating.atLeast_compute h.1 h.2
  refine ⟨_, _, hr, hs, hrisk, hrisk.severity, fun hne => ?_⟩
  refine sublist_mergeSort_of_lt (comparesBy_rankKey ds) (List.mem_of_getElem? hr)
    (List.mem_of_getElem? hs) ?_
  exact rankKey_lt_of_atLeast hrisk.severity hrisk.overallScore.le hne

/-- A second threat of one id, with an impact that is raised beyond the range. -/
theorem dominating_first_of_raised_impact :
    let e := missingAudit "UI"
    let d := { e with impact := .uniform 200 }
    d.Dominates e ∧ ∃ r s, (recordsOf [e, d])[1]? = some r ∧ (recordsOf [e, d])[0]? = some s ∧
      r.severity = .high ∧ s.severity = .medium ∧ [r, s].Sublist (register [e, d]) := by
  intro e d
  have hdom : d.Dominates e := by decide
  have hd : [e, d][1]? = some d := rfl
  have he : [e, d][0]? = some e := rfl
  obtain ⟨r, s, hr, hs, -, -, hfirst⟩ := dominating_first hd he hdom
  have hhigh : r.severity = .high := by
    rw [getElem?_recordsOf] at hr
    cases hr
    decide
  have hmedium : s.severity = .medium := by
    rw [getElem?_recordsOf] at hs
    cases hs
    decide
  refine ⟨hdom, r, s, hr, hs, hhigh, hmedium, hfirst ?_⟩
  rw [hhigh, hmedium]
  rintro ⟨h, -⟩
  cases h

end ThreatModel
