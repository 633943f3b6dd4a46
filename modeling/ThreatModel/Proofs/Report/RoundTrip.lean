import ThreatModel.Pipeline
import ThreatModel.Proofs.Report.Records
import ThreatModel.Proofs.Threat.Records
import ThreatModel.Report.Render

/-!
# Reports are read back from their JSON text

`json_report_reads_back` : what a run reports, from any analysis and any synthesizer, is read back
from the JSON text of the report. Its records are made in one place each, and there so that they can
be recorded: threats are made of drafts (`exists_ofDraft_of_mem_register`) and rated then, and the
summary counts the threats. The rest is `Report.read_render`, which holds for every report that can
be recorded.
-/

namespace ThreatModel

open Json (maxDepth)

variable {t : Session} {source : String} {a : Analysis} {m : Methodology} {document : Option String}
  {y : Synthesizer} {r : Report}

/-- What a report has from the run. -/
theorem exists_drafts_of_report (h : t.report source a m document y = .ok r) :
    ∃ ds, y.drafts a m document t.limits = .ok ds ∧ r.generatedAt = t.startedAt ∧
      r.analysis = a ∧ r.threats = register ds ∧ r.summary = .ofRecords r.threats := by
  rw [Session.report] at h
  cases hd : y.drafts a m document t.limits with
  | error f =>
    rw [hd] at h
    cases h
  | ok ds =>
    rw [hd] at h
    cases h
    exact ⟨ds, rfl, rfl, rfl, rfl, rfl⟩

theorem exists_ofDraft_of_mem_register {ds : List Draft} {x : ThreatRecord} (h : x ∈ register ds) :
    ∃ id d, x = .ofDraft id d := by
  obtain ⟨p, -, rfl⟩ := List.mem_map.1 ((register_perm ds).mem_iff.1 h)
  exact ⟨p.1, p.2, rfl⟩

theorem Report.recordable_of_run (h : t.report source a m document y = .ok r)
    (hstart : t.startedAt.WellFormed) (hlines : ∀ f ∈ a.findings, f.line ≤ maxWord)
    (hcount : r.threats.length ≤ maxWord) : r.Recordable := by
  obtain ⟨ds, -, hinstant, hanalysis, hthreats, hsummary⟩ := exists_drafts_of_report h
  refine ⟨hinstant ▸ hstart, hanalysis ▸ hlines, fun x hx => ?_, ?_⟩
  · obtain ⟨id, d, rfl⟩ := exists_ofDraft_of_mem_register (hthreats ▸ hx)
    exact Rating.recordable_compute _ _
  · rw [hsummary]
    exact Summary.recordable_ofRecords hcount

/-- **A report is read back from its JSON text.** -/
theorem Report.read_render (h : r.Recordable) (color : Bool) :
    (Json.read? (r.render color .json)).bind ofJson? = some r := by
  have hdepth : Json.Printable maxDepth r.toJson := printable_toJson h
  rw [render, Json.read?, String.toList_ofList, Json.readChars?_pretty hdepth, Option.bind_some,
    ofJson?_toJson h]

/-- **The JSON report decodes to itself.** What a run reports is read back from its JSON text, if
the run started at an instant of the calendar and lines and threats are counted in words. -/
theorem json_report_reads_back (h : t.report source a m document y = .ok r)
    (hstart : t.startedAt.WellFormed) (hlines : ∀ f ∈ a.findings, f.line ≤ maxWord)
    (hcount : r.threats.length ≤ maxWord) (color : Bool) :
    (Json.read? (r.render color .json)).bind Report.ofJson? = some r :=
  Report.read_render (Report.recordable_of_run h hstart hlines hcount) color

/-- Quotation marks, backslashes, control characters and characters beyond the first plane come
back, and so do flows with and without a protocol. -/
theorem json_report_reads_back_of_texts :
    ∃ (t : Session) (a : Analysis) (r : Report),
      t = ⟨"run 1", .ofNanoseconds 1700000000123000000, {}⟩ ∧
      a = {
        languages := ["JavaScript"], frameworks := []
        components := [⟨"API \"é\"", .api, ["a\\b.js"], "line\nbreak"⟩,
          ⟨endUser, .external, [], ""⟩]
        dataFlows := [⟨endUser, "API \"é\"", some "HTTPS", "requests"⟩,
          ⟨"API \"é\"", endUser, none, "\t"⟩]
        trustBoundaries := [⟨"Internet", [endUser]⟩]
        findings := [⟨"a\\b.js", 7, "hardcoded_secret", "password = \"0123456789abcdef\"",
          .critical, "\u0001\u001f\u2028😀"⟩]
        fileTree := ["a\\b.js"], entryPoints := [], truncated := true } ∧
      t.report "dir" a .stride none .rules = .ok r ∧ r.threats.length = 3 ∧
      (Json.read? (r.render false .json)).bind Report.ofJson? = some r := by
  have hread {t a r} (h : Session.report t "dir" a .stride none .rules = .ok r)
      (hstart : t.startedAt = .ofNanoseconds 1700000000123000000)
      (hlines : ∀ f ∈ a.findings, f.line ≤ maxWord) (hcount : r.threats.length = 3) :
      r.threats.length = 3 ∧ (Json.read? (r.render false .json)).bind Report.ofJson? = some r := by
    refine ⟨hcount, json_report_reads_back h ?_ hlines (hcount.le.trans (by decide)) false⟩
    rw [hstart]
    exact Instant.wellFormed_ofNanoseconds (by decide)
  refine ⟨_, _, _, rfl, rfl, rfl, hread rfl rfl (by simp [maxWord]) ?_⟩
  dsimp only
  rw [length_register]
  cbv

end ThreatModel
