import ThreatModel.Proofs.List.KeySort
import ThreatModel.Proofs.Risk.Score
import ThreatModel.Proofs.Text.Bytes
import ThreatModel.Proofs.Threat.Records

/-!
# The order of a register

A register holds one record for each draft, with everything that the draft says. The most serious
threats come first, among them those with the highest overall scores, among these the titles are in
the order of their bytes, and threats that agree in all three are in the order of their drafts
(`register_sorted_and_stable`).

`ThreatRecord.ranksBefore` compares scores as doubles. All scores are finite
(`Rating.overallScore_nonneg`), so that it compares numbers: it is the lexicographic order of
`ThreatRecord.rankKey` (`ThreatRecord.ranksBefore_eq`), and the register is sorted by that key.
-/

namespace ThreatModel

variable {ds : List Draft} {a b r : ThreatRecord}

namespace ThreatRecord

/-! ### The key of a record -/

/-- The number that the overall score of a record stands for. -/
def scoreValue (r : ThreatRecord) : ℚ := r.risk.overallScore.value

/-- What records are sorted by: two descending keys and an ascending one. -/
def rankKey (r : ThreatRecord) : ℕᵒᵈ ×ₗ ℚᵒᵈ ×ₗ String :=
  toLex (OrderDual.toDual r.severity.rank, toLex (OrderDual.toDual r.scoreValue, r.title))

/-- A record may stand in front of another: it is more serious, or as serious with a higher score,
or with the same score and a title whose bytes are not larger. -/
def Precedes (a b : ThreatRecord) : Prop :=
  b.severity.rank < a.severity.rank ∨ (a.severity = b.severity ∧
    (b.scoreValue < a.scoreValue ∨ (a.scoreValue = b.scoreValue ∧
      utf8Bytes a.title ≤ utf8Bytes b.title)))

theorem rankKey_le_iff_lex : a.rankKey ≤ b.rankKey ↔
    b.severity.rank < a.severity.rank ∨ (a.severity.rank = b.severity.rank ∧
      (b.scoreValue < a.scoreValue ∨ (a.scoreValue = b.scoreValue ∧ a.title ≤ b.title))) := by
  simp only [rankKey, Prod.Lex.toLex_le_toLex, OrderDual.toDual_lt_toDual, OrderDual.toDual_inj]

theorem rankKey_le_iff : a.rankKey ≤ b.rankKey ↔ Precedes a b := by
  rw [rankKey_le_iff_lex, Precedes, Severity.rank_inj_iff, utf8Bytes_le_utf8Bytes]

theorem rankKey_eq_iff : a.rankKey = b.rankKey ↔
    a.severity = b.severity ∧ a.scoreValue = b.scoreValue ∧ a.title = b.title := by
  simp only [rankKey, toLex_inj, Prod.mk.injEq, OrderDual.toDual_inj, Severity.rank_inj_iff]

/-- **Records with finite scores are compared by their keys.** -/
theorem ranksBefore_eq (ha : a.risk.overallScore.isFinite = true)
    (hb : b.risk.overallScore.isFinite = true) :
    a.ranksBefore b = decide (a.rankKey ≤ b.rankKey) := by
  have hlt := Binary.lt_iff hb ha
  have hgt := Binary.lt_iff ha hb
  rw [Bool.eq_iff_iff, decide_eq_true_eq, rankKey_le_iff_lex, ranksBefore]
  by_cases hs : a.severity.rank = b.severity.rank
  · simp only [hs, bne_self_eq_false, Bool.false_eq_true, if_false, lt_self_iff_false, false_or,
      true_and]
    split_ifs with h₁ h₂
    · have hscore : b.scoreValue < a.scoreValue := hlt.1 h₁
      simp [hscore]
    · have hscore : a.scoreValue < b.scoreValue := hgt.1 h₂
      simp [hscore.not_gt, hscore.ne]
    · have hscore : a.scoreValue = b.scoreValue :=
        le_antisymm (not_lt.1 (mt hlt.2 h₁)) (not_lt.1 (mt hgt.2 h₂))
      simp [hscore]
  · simp [hs]

/-! ### What a record keeps -/

/-- A record holds everything that a draft says, with the factors in range, and is rated by them. -/
structure Keeps (d : Draft) (r : ThreatRecord) : Prop where
  title : r.title = d.title
  category : r.category = d.category
  source : r.source = d.source
  prerequisites : r.prerequisites = d.prerequisites
  action : r.action = d.action
  consequence : r.consequence = d.consequence
  assets : r.assets = d.assets
  boundary : r.boundary = d.boundary
  assumptions : r.assumptions = d.assumptions
  mitigations : r.mitigations = d.mitigations
  cve : r.cve = d.cve
  likelihood : r.risk.likelihood = d.likelihood.map (min · 9)
  impact : r.risk.impact = d.impact.map (min · 9)
  severity : r.severity = (Rating.compute d.likelihood d.impact).severity
  overallScore : r.risk.overallScore = (Rating.compute d.likelihood d.impact).overallScore

theorem keeps_ofDraft (id : String) (d : Draft) : Keeps d (ofDraft id d) := by
  constructor <;> rfl

end ThreatRecord

/-! ### The register -/

theorem overallScore_nonneg_of_mem (h : r ∈ recordsOf ds) : r.risk.overallScore.Nonneg := by
  obtain ⟨⟨id, d⟩, -, rfl⟩ := List.mem_map.1 h
  exact Rating.overallScore_nonneg d.likelihood d.impact

theorem comparesBy_rankKey (ds : List Draft) :
    ComparesBy ThreatRecord.ranksBefore ThreatRecord.rankKey (recordsOf ds) := by
  intro a ha b hb
  exact ThreatRecord.ranksBefore_eq (overallScore_nonneg_of_mem ha).1
    (overallScore_nonneg_of_mem hb).1

/-- **A register is sorted, and nothing is lost, added or changed.** It is a permutation of the
records of the drafts, each of which keeps what its draft says; severities are descending, then
overall scores, which are finite and not negative, then titles are ascending by bytes; and records
that agree in all three are in the order of their drafts. -/
theorem register_sorted_and_stable (ds : List Draft) :
    List.Forall₂ ThreatRecord.Keeps ds (recordsOf ds) ∧
      (register ds).Perm (recordsOf ds) ∧
      (∀ r ∈ register ds, r.risk.overallScore.Nonneg) ∧
      (register ds).Pairwise ThreatRecord.Precedes ∧
      ∀ r : ThreatRecord,
        (register ds).filter (fun s => s.severity = r.severity ∧ s.scoreValue = r.scoreValue ∧
          s.title = r.title) =
        (recordsOf ds).filter fun s => s.severity = r.severity ∧ s.scoreValue = r.scoreValue ∧
          s.title = r.title := by
  refine ⟨?_, register_perm ds, ?_, ?_, ?_⟩
  · refine (forall₂_recordsOf ds).imp ?_
    intro d r hr
    rw [hr]
    exact ThreatRecord.keeps_ofDraft r.id d
  · intro r hr
    exact overallScore_nonneg_of_mem ((register_perm ds).mem_iff.1 hr)
  · refine (pairwise_mergeSort_of_comparesBy (comparesBy_rankKey ds)).imp ?_
    intro a b hab
    exact ThreatRecord.rankKey_le_iff.1 hab
  · intro r
    have hties := filter_mergeSort_of_comparesBy (comparesBy_rankKey ds) r.rankKey
    simpa only [register, ThreatRecord.rankKey_eq_iff] using hties

end ThreatModel
