import ThreatModel.Proofs.Reply.WellFormed
import ThreatModel.Proofs.Rules.WellFormed
import ThreatModel.Synthesis.Synthesizer

/-!
# Both ways of finding threats give well-formed drafts

Threats that are read from the reply of a model and threats that follow from rules satisfy the same
conditions (`drafts_wellFormed`): no text is blank, the factors are in range, and an entry in a list
of known vulnerabilities is no word for having none. Nothing is assumed of the reply, the files, the
document or the findings. `Synthesizer.wellFormed_of_mem_drafts` says the same of what a synthesizer
returns.
-/

namespace ThreatModel

/-! ### Drafts of a synthesizer -/

/-- The threats in the answer of a model are those in some reply. -/
theorem exists_reply_of_answerThreats {answer : Except Chat.Error Chat.Response} {o : Reply.Outcome}
    (h : answerThreats answer = .ok o) : ∃ text, Reply.threats text = .ok o := by
  unfold answerThreats at h
  split at h
  next => cases h
  next r =>
    split at h
    next => cases h
    next s _ =>
      split at h
      next o' ho =>
        cases h
        exact ⟨s.toList, ho⟩
      next => cases h

/-- **Either way of finding threats gives well-formed drafts**, whatever a model answers. -/
theorem Synthesizer.wellFormed_of_mem_drafts {y : Synthesizer} {a : Analysis} {m : Methodology}
    {document : Option String} {l : Limits} {ds : List Draft} (ha : a.Named)
    (h : y.drafts a m document l = .ok ds) {d : Draft} (hd : d ∈ ds) : d.WellFormed := by
  cases y with
  | rules =>
    cases h
    exact wellFormed_of_mem_ruleThreats ha hd
  | model ask =>
    obtain ⟨o, ho, rfl⟩ := exists_of_map_eq_ok h
    obtain ⟨text, htext⟩ := exists_reply_of_answerThreats ho
    exact Reply.wellFormed_of_threats htext hd

/-! ### Drafts of replies and analyses -/

/-- **Every draft is well-formed**: those in a reply from which threats can be read, those by rules
for files, and those by rules for a document, whatever was found in them. -/
theorem drafts_wellFormed :
    (∀ text o, Reply.threats text = .ok o → ∀ d ∈ o.drafts, d.WellFormed) ∧
      (∀ sources findings limits, ∀ d ∈ ruleThreats (extract sources findings limits),
        d.WellFormed) ∧
      ∀ name text findings, ∀ d ∈ ruleThreats (extractDocument name text findings),
        d.WellFormed := by
  refine ⟨fun text o h d hd => ?_, fun sources findings limits d hd => ?_,
    fun name text findings d hd => ?_⟩
  · exact Reply.wellFormed_of_threats h hd
  · exact wellFormed_of_mem_ruleThreats (named_extract sources findings limits) hd
  · exact wellFormed_of_mem_ruleThreats (named_extractDocument name text findings) hd

/-- A blank title and a word for no entry count as missing in a reply, and a secret in a file is
taken out of its line of code. -/
theorem drafts_wellFormed_of_secret :
    (Reply.threats "[\x7b\"title\":\" \",\"cve\":\"NA\"\x7d]".toList =
        .ok ⟨[Reply.draftOfObject (.object [])], false, 0⟩ ∧
      (Reply.draftOfObject (.object [])).WellFormed) ∧
      ∃ d ∈ ruleThreats (extract ⟨[.ofText "a.js" "password = \"0123456789abcdef\""], false, 0⟩
          [⟨"a.js", 1, "hardcoded_secret", "password = \"0123456789abcdef\"", .critical, ""⟩] {}),
        .code "a.js" "password = \"0123456789abcdef\"" "password = process.env.PASSWORD" ∈
          d.mitigations ∧ d.WellFormed := by
  obtain ⟨hreply, hfiles, -⟩ := drafts_wellFormed
  have helements : Reply.elements "[\x7b\"title\":\" \",\"cve\":\"NA\"\x7d]".toList =
      .ok ([.object [("title", .string " "), ("cve", .string "NA")]], false) := by cbv
  have hthreats : Reply.threats "[\x7b\"title\":\" \",\"cve\":\"NA\"\x7d]".toList =
      .ok ⟨[Reply.draftOfObject (.object [])], false, 0⟩ := by
    rw [Reply.threats, helements]
    decide +kernel
  have hfix : secretFix? "password = \"0123456789abcdef\"" "a.js" =
      some "password = process.env.PASSWORD" := by cbv
  refine ⟨⟨hthreats, hreply _ _ hthreats _ List.mem_cons_self⟩, findingThreat _ _,
    findingThreat_mem_ruleThreats List.mem_cons_self, ?_,
    hfiles _ _ _ _ (findingThreat_mem_ruleThreats List.mem_cons_self)⟩
  refine List.mem_append_left _ ?_
  rw [secretMitigation, if_pos (by rfl), hfix]
  exact List.mem_cons_self

end ThreatModel
