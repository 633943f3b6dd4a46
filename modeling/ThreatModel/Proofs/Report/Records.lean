import ThreatModel.Proofs.Json.Record
import ThreatModel.Proofs.Report.Instant
import ThreatModel.Proofs.Risk.Hundredths
import ThreatModel.Report.Basic

/-!
# Records of a report decode to themselves

For each kind of record in a report: its JSON decodes to the record (`ofJson?_toJson`), and can be
printed (`printable_toJson`). Records of texts need no condition, whatever the texts are. What needs
one are numbers: factors are bytes, lines and counts are words, and scores are hundredths
(`Rating.Recordable`, `Summary.Recordable`); and the counts of a summary stand in the order of their
names, because reading them puts them in that order. `Report.Recordable` collects this for a report.

A report is five levels deep: analysis and threats, lists of records in them, and lists in these.
-/

namespace ThreatModel

open Json (Decoder Printable printable_map printable_nat)

variable {depth : ℕ}

/-! ### Architectures -/

namespace Component

variable (c : Component)

@[simp] theorem ofJson?_toJson : ofJson? c.toJson = some c := by
  simp [ofJson?, toJson]

@[simp] theorem printable_toJson : Printable (depth + 2) c.toJson := by
  simp [toJson]

end Component

namespace DataFlow

variable (f : DataFlow)

@[simp] theorem ofJson?_toJson : ofJson? f.toJson = some f := by
  obtain ⟨source, target, protocol, dataType⟩ := f
  cases protocol <;> simp [ofJson?, toJson, Json.optionalMember]

@[simp] theorem printable_toJson : Printable (depth + 1) f.toJson := by
  obtain ⟨source, target, protocol, dataType⟩ := f
  cases protocol <;> simp [toJson, Json.optionalMember]

end DataFlow

namespace TrustBoundary

variable (b : TrustBoundary)

@[simp] theorem ofJson?_toJson : ofJson? b.toJson = some b := by
  simp [ofJson?, toJson]

@[simp] theorem printable_toJson : Printable (depth + 2) b.toJson := by
  simp [toJson]

end TrustBoundary

namespace Finding

@[simp] theorem ofJson?_toJson (f : Finding) : ofJson? f.toJson = some f := by
  simp [ofJson?, toJson]

theorem printable_toJson {f : Finding} (h : f.line ≤ maxWord) :
    Printable (depth + 1) f.toJson := by
  simp [toJson, printable_nat h]

end Finding

namespace Analysis

@[simp] theorem ofJson?_toJson (a : Analysis) : ofJson? a.toJson = some a := by
  simp [ofJson?, toJson, Decoder.list_map]

theorem printable_toJson {a : Analysis} (h : ∀ f ∈ a.findings, f.line ≤ maxWord) :
    Printable (depth + 4) a.toJson := by
  have hfindings : Printable (depth + 3) (.array (a.findings.map Finding.toJson)) :=
    printable_map fun f hf => Finding.printable_toJson (h f hf)
  simp [toJson, printable_map, hfindings]

end Analysis

/-! ### Threats -/

namespace Mitigation

variable (m : Mitigation)

@[simp] theorem ofJson?_toJson : ofJson? m.toJson = some m := by
  cases m <;> simp [ofJson?, toJson]

@[simp] theorem printable_toJson : Printable (depth + 1) m.toJson := by
  cases m <;> simp [toJson]

end Mitigation

theorem printable_factor {n : ℕ} (h : n ≤ maxRecordedFactor) : Printable depth (.nat n) :=
  printable_nat (h.trans (by decide))

namespace Likelihood

variable {l : Likelihood} (h : ∀ n ∈ l.values, n ≤ maxRecordedFactor)

include h

theorem ofJson?_toJson : ofJson? l.toJson = some l := by
  simp only [values, List.forall_mem_cons] at h
  simp [ofJson?, toJson, Decoder.natUpTo_nat, h]

theorem printable_toJson : Printable (depth + 1) l.toJson := by
  simp only [values, List.forall_mem_cons] at h
  simp [toJson, printable_factor, h]

end Likelihood

namespace Impact

variable {i : Impact} (h : ∀ n ∈ i.values, n ≤ maxRecordedFactor)

include h

theorem ofJson?_toJson : ofJson? i.toJson = some i := by
  simp only [values, List.forall_mem_cons] at h
  simp [ofJson?, toJson, Decoder.natUpTo_nat, h]

theorem printable_toJson : Printable (depth + 1) i.toJson := by
  simp only [values, List.forall_mem_cons] at h
  simp [toJson, printable_factor, h]

end Impact

theorem InHundredths.printable {x : Binary} (h : InHundredths x) :
    Printable depth (.number (.double x)) := by
  obtain ⟨n, hn, rfl⟩ := h
  exact .number (Json.readsBack_hundredths (hn.trans_lt (by decide)))

namespace Rating

/-- A rating whose numbers can be recorded. -/
structure Recordable (r : Rating) : Prop where
  likelihood : ∀ n ∈ r.likelihood.values, n ≤ maxRecordedFactor
  impact : ∀ n ∈ r.impact.values, n ≤ maxRecordedFactor
  hundredths : r.Hundredths

theorem recordable_compute (l : Likelihood) (i : Impact) : (compute l i).Recordable where
  likelihood _ hn := (Likelihood.le_of_mem_clamped hn).trans (by decide)
  impact _ hn := (Impact.le_of_mem_clamped hn).trans (by decide)
  hundredths := hundredths_compute l i

variable {r : Rating} (h : r.Recordable)

include h

theorem ofJson?_toJson : ofJson? r.toJson = some r := by
  simp [ofJson?, toJson, Likelihood.ofJson?_toJson h.likelihood, Impact.ofJson?_toJson h.impact]

theorem printable_toJson : Printable (depth + 2) r.toJson := by
  simp [toJson, Likelihood.printable_toJson h.likelihood, Impact.printable_toJson h.impact,
    h.hundredths.likelihoodScore.printable, h.hundredths.impactScore.printable,
    h.hundredths.overallScore.printable]

end Rating

namespace ThreatRecord

variable {r : ThreatRecord} (h : r.risk.Recordable)

include h

theorem ofJson?_toJson : ofJson? r.toJson = some r := by
  have hrisk := Rating.ofJson?_toJson h
  obtain ⟨id, title, category, severity, source, prerequisites, action, consequence, assets,
    boundary, assumptions, mitigations, cve, statement, risk⟩ := r
  cases cve <;> simp [ofJson?, toJson, Json.optionalMember, Decoder.list_map, hrisk]

theorem printable_toJson : Printable (depth + 3) r.toJson := by
  have hrisk : Printable (depth + 2) r.risk.toJson := Rating.printable_toJson h
  obtain ⟨id, title, category, severity, source, prerequisites, action, consequence, assets,
    boundary, assumptions, mitigations, cve, statement, risk⟩ := r
  cases cve <;> simp [toJson, Json.optionalMember, printable_map, hrisk]

end ThreatRecord

/-! ### Summaries -/

/-- Counts under different names, in the order of the names. -/
structure RecordableCounts (cs : List (String × ℕ)) : Prop where
  names : cs.Pairwise fun a b => a.1 < b.1
  counts : ∀ c ∈ cs, c.2 ≤ maxWord

namespace RecordableCounts

variable {cs : List (String × ℕ)} (h : RecordableCounts cs)

include h

theorem inOrder_eq : Summary.inOrder cs = cs :=
  List.mergeSort_of_pairwise (h.names.imp fun hlt => decide_eq_true (le_of_lt hlt))

theorem printable : Printable (depth + 1) (Json.ofCounts cs) :=
  Json.printable_ofCounts (List.pairwise_map.2 (h.names.imp ne_of_lt)) h.counts

theorem filter (p : String × ℕ → Bool) :
    RecordableCounts (cs.filter p) where
  names := h.names.filter p
  counts _ hc := h.counts _ (List.mem_of_mem_filter hc)

end RecordableCounts

/-- Counts of items by name, for names in order. -/
theorem recordableCounts_map {α : Type} {name : α → String} {as : List α}
    {rs : List ThreatRecord} {p : α → ThreatRecord → Bool}
    (hnames : as.Pairwise fun a b => name a < name b) (h : rs.length ≤ maxWord) :
    RecordableCounts (as.map fun a => (name a, rs.countP (p a))) where
  names := List.pairwise_map.2 hnames
  counts := List.forall_mem_map.2 fun _ _ => List.countP_le_length.trans h

namespace Summary

/-- A summary whose counts can be recorded. -/
structure Recordable (s : Summary) : Prop where
  total : s.total ≤ maxWord
  bySeverity : RecordableCounts s.bySeverity
  byCategory : RecordableCounts s.byCategory

theorem recordable_ofRecords {rs : List ThreatRecord} (h : rs.length ≤ maxWord) :
    (ofRecords rs).Recordable where
  total := h
  bySeverity := recordableCounts_map (by decide) h
  byCategory := (recordableCounts_map (by decide) h).filter _

variable {s : Summary} (h : s.Recordable)

include h

theorem ofJson?_toJson : ofJson? s.toJson = some s := by
  simp [ofJson?, toJson, h.bySeverity.inOrder_eq, h.byCategory.inOrder_eq]

theorem printable_toJson : Printable (depth + 2) s.toJson := by
  simp [toJson, printable_nat h.total, h.bySeverity.printable, h.byCategory.printable]

end Summary

/-! ### Reports -/

namespace Report

/-- A report whose parts can be recorded: its instant is one of the calendar, and its numbers are
in the range of their type. -/
structure Recordable (r : Report) : Prop where
  generatedAt : r.generatedAt.WellFormed
  lines : ∀ f ∈ r.analysis.findings, f.line ≤ maxWord
  risks : ∀ t ∈ r.threats, t.risk.Recordable
  summary : r.summary.Recordable

variable {r : Report} (h : r.Recordable)

include h

/-- **A report decodes to itself.** -/
theorem ofJson?_toJson : ofJson? r.toJson = some r := by
  have hinstant := Instant.ofText?_text h.generatedAt
  have hthreats : Decoder.list ThreatRecord.ofJson? (.array (r.threats.map ThreatRecord.toJson)) =
      some r.threats :=
    Decoder.list_map fun t ht => ThreatRecord.ofJson?_toJson (h.risks t ht)
  simp [ofJson?, toJson, hinstant, hthreats, Summary.ofJson?_toJson h.summary]

theorem printable_toJson : Printable (depth + 5) r.toJson := by
  have hthreats : Printable (depth + 4) (.array (r.threats.map ThreatRecord.toJson)) :=
    printable_map fun t ht => ThreatRecord.printable_toJson (h.risks t ht)
  have hanalysis : Printable (depth + 4) r.analysis.toJson := Analysis.printable_toJson h.lines
  have hsummary : Printable (depth + 4) r.summary.toJson := Summary.printable_toJson h.summary
  simp [toJson, hthreats, hanalysis, hsummary]

end Report

end ThreatModel
