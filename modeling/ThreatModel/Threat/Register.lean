import ThreatModel.Threat.Identity
import ThreatModel.Threat.Record

/-!
# The register of threats

`register` turns drafts into rated threats. Ids are given in the order of the drafts: of drafts
with one base id the first keeps it and the `k`-th has `-k` behind it. Then the threats are ordered,
the most serious first. `register_perm` says that nothing is lost or added.
-/

namespace ThreatModel

/-- The id of a draft with this base id, after `earlier` others with the same one. -/
def numberedId (base : String) (earlier : Nat) : String :=
  if earlier = 0 then base else s!"{base}-{earlier + 1}"

/-- Drafts with their ids; `seen` holds the base ids that came before. -/
def identified (seen : List String) : List Draft → List (String × Draft)
  | [] => []
  | d :: ds =>
    (numberedId d.baseId (seen.count d.baseId), d) :: identified (d.baseId :: seen) ds

/-- Whether a threat may stand in front of another: higher severity first, then the higher overall
score, then by title. -/
def ThreatRecord.ranksBefore (a b : ThreatRecord) : Bool :=
  if a.severity.rank != b.severity.rank then decide (b.severity.rank < a.severity.rank)
  else if b.risk.overallScore.lt a.risk.overallScore then true
  else if a.risk.overallScore.lt b.risk.overallScore then false
  else decide (a.title ≤ b.title)

/-- The threats of drafts, in the order of the drafts. -/
def recordsOf (ds : List Draft) : List ThreatRecord :=
  (identified [] ds).map fun p => ThreatRecord.ofDraft p.1 p.2

/-- The threats of drafts, the most serious first. -/
def register (ds : List Draft) : List ThreatRecord :=
  (recordsOf ds).mergeSort ThreatRecord.ranksBefore

theorem map_snd_identified (seen : List String) (ds : List Draft) :
    (identified seen ds).map (·.2) = ds := by
  induction ds generalizing seen with
  | nil => rfl
  | cons d ds ih => simp [identified, ih]

theorem register_perm (ds : List Draft) : (register ds).Perm (recordsOf ds) :=
  List.mergeSort_perm _ _

theorem length_register (ds : List Draft) : (register ds).length = ds.length := by
  have h := congrArg List.length (map_snd_identified [] ds)
  rw [List.length_map] at h
  rw [(register_perm ds).length_eq, recordsOf, List.length_map, h]

end ThreatModel
