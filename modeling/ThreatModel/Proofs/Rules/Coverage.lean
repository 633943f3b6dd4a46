import ThreatModel.Proofs.Threat.Ids
import ThreatModel.Rules.Threats

/-!
# One threat for each finding

The register of the threats by rules is never empty, and every finding has a record of its own in
it, also if other findings are the same in all respects. All other records are those of the threats
that follow from the architecture (`every_finding_reported`).

The drafts of the findings stand in front of those of the architecture, and every draft has a place
of its own in the register (`exists_places`), so that the places of a register are those of the
findings and those of the threats of the architecture.
-/

namespace ThreatModel

variable (a : Analysis)

/-- A record reports a finding: title, category and rating are those that the profile of its
detector gives for its file, and an assumption names the detector and the place in the code. -/
structure ThreatRecord.Reports (f : Finding) (r : ThreatRecord) : Prop where
  title : r.title = (Profile.forDetector f.detector).title ++ " in " ++ f.file
  category : r.category = (Profile.forDetector f.detector).category
  risk : r.risk = Rating.compute (Profile.forDetector f.detector).likelihood
    (Profile.forDetector f.detector).impact
  severity : r.severity = r.risk.severity
  assumption : "Flagged by the " ++ f.detector ++ " detector at " ++ f.file ++ ":" ++
    toString f.line ++ "; not confirmed by manual review" ∈ r.assumptions

theorem reports_findingThreat (id : String) (f : Finding) :
    ThreatRecord.Reports f (ThreatRecord.ofDraft id (findingThreat a f)) where
  title := rfl
  category := rfl
  risk := rfl
  severity := rfl
  assumption := List.mem_singleton_self _

/-- The places of the threats by rules. -/
def rulePlaces :
    Fin a.findings.length ⊕ Fin (architectureThreats a).length ≃ Fin (ruleThreats a).length :=
  finSumFinEquiv.trans (finCongr (length_ruleThreats a).symm)

theorem ruleThreats_inl (i : Fin a.findings.length) :
    (ruleThreats a)[rulePlaces a (.inl i)] = findingThreat a a.findings[i] := by
  have h : (ruleThreats a)[i.val]? = some (findingThreat a a.findings[i]) := by
    rw [ruleThreats, List.getElem?_append_left (by simp)]
    simp
  exact (List.getElem?_eq_some_iff.1 h).2

theorem ruleThreats_inr (j : Fin (architectureThreats a).length) :
    (ruleThreats a)[rulePlaces a (.inr j)] = (architectureThreats a)[j] := by
  have h : (ruleThreats a)[a.findings.length + j.val]? = some (architectureThreats a)[j] := by
    rw [ruleThreats, List.getElem?_append_right (by simp)]
    simp
  exact (List.getElem?_eq_some_iff.1 h).2

/-- **No finding is lost, and there is always a threat.** The places of the register are those of
the findings and those of the threats of the architecture, each with one place of its own: a record
at a place of the first kind reports the finding, one at a place of the second kind is that of the
threat of the architecture. -/
theorem every_finding_reported :
    register (ruleThreats a) ≠ [] ∧
      ∃ e : Fin a.findings.length ⊕ Fin (architectureThreats a).length ≃
          Fin (register (ruleThreats a)).length,
        (∀ i, ThreatRecord.Reports a.findings[i] (register (ruleThreats a))[e (.inl i)]) ∧
          ∀ j, ∃ id, (register (ruleThreats a))[e (.inr j)] =
            ThreatRecord.ofDraft id (architectureThreats a)[j] := by
  obtain ⟨e, he⟩ := exists_places (ruleThreats a)
  have hrecord (p : Fin (ruleThreats a).length) :
      ∃ id, (register (ruleThreats a))[e p] = ThreatRecord.ofDraft id (ruleThreats a)[p] := by
    have hp := he p
    rw [getElem?_recordsOf, List.getElem?_eq_getElem p.isLt, Option.map_some,
      Option.some.injEq] at hp
    exact ⟨_, hp.symm⟩
  refine ⟨?_, (rulePlaces a).trans e, fun i => ?_, fun j => ?_⟩
  · rw [← List.length_pos_iff, length_register]
    exact List.length_pos_iff.2 (ruleThreats_ne_nil a)
  · obtain ⟨id, hid⟩ := hrecord (rulePlaces a (.inl i))
    rw [ruleThreats_inl] at hid
    exact hid ▸ reports_findingThreat a id a.findings[i]
  · obtain ⟨id, hid⟩ := hrecord (rulePlaces a (.inr j))
    rw [ruleThreats_inr] at hid
    exact ⟨id, hid⟩

end ThreatModel
