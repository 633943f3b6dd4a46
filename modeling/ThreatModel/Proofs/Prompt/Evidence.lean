import ThreatModel.Proofs.List.KeySort
import ThreatModel.Proofs.Text.Bytes
import ThreatModel.Prompt.Request

/-!
# The findings in a prompt

A prompt has room for a number of findings. Those that are shown are the first ones of the ranking:
the most serious come first, then files are in the order of their bytes, then lines are ascending,
and what agrees in all three stays in the order of the scan. So no finding is left out for one that
it outranks (`shown_before_omitted`).

The comparison that sorts the findings is that of their keys (`Finding.ranksBefore_eq`), and there
is only one ranking of a list of findings (`rankingOf_iff`).
-/

namespace ThreatModel

namespace Finding

variable {f g : Finding}

/-! ### Ranks of findings -/

/-- A finding outranks another one: it is more serious, or as serious in a file with smaller bytes
in its path, or in the same file on an earlier line. -/
def Outranks (f g : Finding) : Prop :=
  g.severity.rank < f.severity.rank ∨ (f.severity = g.severity ∧
    (utf8Bytes f.file < utf8Bytes g.file ∨ (f.file = g.file ∧ f.line < g.line)))

/-- Two findings agree in all that they are ranked by. -/
def Ties (f g : Finding) : Prop := f.severity = g.severity ∧ f.file = g.file ∧ f.line = g.line

instance (f g : Finding) : Decidable (f.Ties g) := inferInstanceAs (Decidable (_ ∧ _))

/-- What findings are ranked by: a descending key and two ascending ones. -/
def rankKey (f : Finding) : ℕᵒᵈ ×ₗ String ×ₗ ℕ :=
  toLex (OrderDual.toDual f.severity.rank, toLex (f.file, f.line))

theorem rankKey_le_iff : f.rankKey ≤ g.rankKey ↔ g.severity.rank < f.severity.rank ∨
    (f.severity.rank = g.severity.rank ∧
      (f.file < g.file ∨ (f.file = g.file ∧ f.line ≤ g.line))) := by
  simp only [rankKey, Prod.Lex.toLex_le_toLex, OrderDual.toDual_lt_toDual, OrderDual.toDual_inj]

theorem rankKey_lt_iff : f.rankKey < g.rankKey ↔ f.Outranks g := by
  simp only [rankKey, Outranks, Prod.Lex.toLex_lt_toLex, OrderDual.toDual_lt_toDual,
    OrderDual.toDual_inj, Severity.rank_inj_iff, utf8Bytes_lt_utf8Bytes]

theorem rankKey_eq_iff : f.rankKey = g.rankKey ↔ f.Ties g := by
  simp only [rankKey, Ties, toLex_inj, Prod.mk.injEq, OrderDual.toDual_inj, Severity.rank_inj_iff]

/-- **Findings are compared by their keys.** -/
theorem ranksBefore_eq (f g : Finding) : f.ranksBefore g = decide (f.rankKey ≤ g.rankKey) := by
  rw [Bool.eq_iff_iff, decide_eq_true_eq, rankKey_le_iff, ranksBefore]
  by_cases hs : f.severity.rank = g.severity.rank
  · by_cases hfile : f.file = g.file
    · simp [hs, hfile]
    · simp [hs, hfile]
  · simp [hs]

theorem comparesBy_rankKey (found : List Finding) : ComparesBy ranksBefore rankKey found := by
  intro f _ g _
  exact ranksBefore_eq f g

end Finding

/-! ### Rankings -/

/-- A ranking of what a scan has found: the same findings, none of them behind one that it outranks,
and those that tie in the order in which they were found. -/
structure RankingOf (found ranked : List Finding) : Prop where
  perm : ranked.Perm found
  sorted : ranked.Pairwise fun f g => ¬ g.Outranks f
  stable : ∀ f : Finding, ranked.filter (fun g => g.Ties f) = found.filter fun g => g.Ties f

theorem rankingOf_rankedFindings (a : Analysis) : RankingOf a.findings a.rankedFindings where
  perm := a.rankedFindings_perm
  sorted := by
    refine (pairwise_mergeSort_of_comparesBy (Finding.comparesBy_rankKey a.findings)).imp ?_
    intro f g hle
    rw [← Finding.rankKey_lt_iff]
    exact not_lt.2 hle
  stable := by
    intro f
    have hties := filter_mergeSort_of_comparesBy (Finding.comparesBy_rankKey a.findings) f.rankKey
    simpa only [Analysis.rankedFindings, Finding.rankKey_eq_iff] using hties

/-- **The ranking of the findings is the only one.** -/
theorem rankingOf_iff {a : Analysis} {ranked : List Finding} :
    RankingOf a.findings ranked ↔ ranked = a.rankedFindings := by
  constructor
  · intro h
    have hkeys {l : List Finding} (hl : RankingOf a.findings l) :
        l.Pairwise fun f g => f.rankKey ≤ g.rankKey := by
      refine hl.sorted.imp ?_
      intro f g hnot
      rwa [← Finding.rankKey_lt_iff, not_lt] at hnot
    have hranked := rankingOf_rankedFindings a
    refine eq_of_pairwise_le_of_filter_eq (hkeys h) (hkeys hranked) ?_
    intro f
    simp only [Finding.rankKey_eq_iff]
    rw [h.stable, hranked.stable]
  · rintro rfl
    exact rankingOf_rankedFindings a

namespace Prompt

variable (a : Analysis) (l : Limits)

/-- **The prompt shows the findings that rank first.** As many as there is room for are shown, they
are the front of the only ranking, and none that is left out outranks one of them; of those that tie
the ones that were found first are shown. -/
theorem shown_before_omitted (m : Methodology) (document : Option String) :
    sectionText a m document l .findings = bullets ((shownFindings a l).map findingLine) ∧
      (shownFindings a l).length = min l.promptFindingsCap a.findings.length ∧
      ∃ omitted, RankingOf a.findings (shownFindings a l ++ omitted) ∧
        shownFindings a l ++ omitted = a.rankedFindings ∧
        (∀ f ∈ shownFindings a l, ∀ g ∈ omitted, ¬ g.Outranks f) ∧
        ∀ f : Finding, a.findings.filter (fun g => g.Ties f) =
          (shownFindings a l).filter (fun g => g.Ties f) ++ omitted.filter fun g => g.Ties f := by
  have hsplit : shownFindings a l ++ a.rankedFindings.drop l.promptFindingsCap =
      a.rankedFindings := List.take_append_drop _ _
  have hranking := rankingOf_rankedFindings a
  refine ⟨rfl, ?_, a.rankedFindings.drop l.promptFindingsCap, ?_, hsplit, ?_, ?_⟩
  · rw [shownFindings, List.length_take, hranking.perm.length_eq]
  · rwa [hsplit]
  · have hsorted := hranking.sorted
    rw [← hsplit, List.pairwise_append] at hsorted
    exact hsorted.2.2
  · intro f
    rw [← hranking.stable f, ← List.filter_append, hsplit]

end Prompt

end ThreatModel
