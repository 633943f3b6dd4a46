import ThreatModel.Proofs.Threat.Order
import ThreatModel.Rules.Threats

/-!
# Drafts in any order

Two things in a register depend on the order of the drafts: the numbers behind ids that drafts
share, and the order of threats that agree in severity, score and title. If the ids and the
standings of all drafts are different, a register does not depend on that order
(`register_eq_of_perm`).

Drafts with different ids are rated one by one (`recordsOf_of_nodup`), so that the records of
drafts in another order are the same records in another order; and what is sorted by different keys
has one order only (`mergeSort_eq_of_perm`).
-/

namespace ThreatModel

variable {ds es : List Draft} {d : Draft} {i : ℕ}

/-- What the place of a draft in a register follows from: its severity, its overall score, and its
title. -/
def Draft.standing (d : Draft) : Severity × ℚ × String :=
  let risk := Rating.compute d.likelihood d.impact
  (risk.severity, risk.overallScore.value, d.title)

/-- Records are sorted by the standings of their drafts. -/
theorem rankKey_ofDraft_eq_iff (x y : String) (d e : Draft) :
    (ThreatRecord.ofDraft x d).rankKey = (ThreatRecord.ofDraft y e).rankKey ↔
      d.standing = e.standing := by
  rw [ThreatRecord.rankKey_eq_iff, Draft.standing, Draft.standing, Prod.mk.injEq, Prod.mk.injEq]
  rfl

/-- If all ids are different, none has been seen before. -/
theorem earlier_of_nodup (h : (ds.map Draft.baseId).Nodup) (hd : ds[i]? = some d) :
    earlier ds i d.baseId = 0 := by
  rw [earlier, List.countP_eq_zero]
  intro e he heq
  obtain ⟨j, hj, hje⟩ := List.mem_take_iff_getElem.1 he
  have hlt : j < i := by omega
  have hi : i < ds.length := (List.getElem?_eq_some_iff.1 hd).1
  refine List.nodup_iff_getElem?_ne_getElem?.1 h j i hlt (by rwa [List.length_map]) ?_
  rw [List.getElem?_map, List.getElem?_map, hd, List.getElem?_eq_getElem (by omega), hje]
  simpa using heq

/-- Drafts with different ids keep them. -/
theorem recordsOf_of_nodup (h : (ds.map Draft.baseId).Nodup) :
    recordsOf ds = ds.map fun d => ThreatRecord.ofDraft d.baseId d := by
  refine List.ext_getElem? fun i => ?_
  rw [getElem?_recordsOf, List.getElem?_map]
  cases hd : ds[i]? with
  | none => rfl
  | some d => rw [Option.map_some, Option.map_some, earlier_of_nodup h hd, numberedId, if_pos rfl]

theorem nodup_rankKeys (hids : (ds.map Draft.baseId).Nodup)
    (hstandings : (ds.map Draft.standing).Nodup) :
    ((recordsOf ds).map ThreatRecord.rankKey).Nodup := by
  rw [recordsOf_of_nodup hids, List.map_map, List.Nodup, List.pairwise_map]
  rw [List.Nodup, List.pairwise_map] at hstandings
  refine hstandings.imp ?_
  intro d e hne heq
  exact hne ((rankKey_ofDraft_eq_iff _ _ d e).1 heq)

/-- **The order of drafts does not matter if they differ in their ids and in their standings.** -/
theorem register_eq_of_perm (hperm : ds.Perm es) (hids : (ds.map Draft.baseId).Nodup)
    (hstandings : (ds.map Draft.standing).Nodup) : register ds = register es := by
  have hids' : (es.map Draft.baseId).Nodup := (hperm.map _).nodup_iff.1 hids
  have hrecords : (recordsOf ds).Perm (recordsOf es) := by
    rw [recordsOf_of_nodup hids, recordsOf_of_nodup hids']
    exact hperm.map _
  exact mergeSort_eq_of_perm (comparesBy_rankKey ds) hrecords (nodup_rankKeys hids hstandings)

/-- Three threats, two of them with one title but at different boundaries. -/
theorem register_eq_of_rotation :
    let a := messageTampering "Jobs"
    let b := missingAudit "UI"
    let c := { b with boundary := "Cloud", impact := .severe }
    ([a, b, c].map Draft.baseId).Nodup ∧ ([a, b, c].map Draft.standing).Nodup ∧
      register [a, b, c] = register [b, c, a] := by
  intro a b c
  have hids : ([a, b, c].map Draft.baseId).Nodup := by decide +kernel
  have hstandings : ([a, b, c].map Draft.standing).Nodup := by
    refine List.Nodup.of_map (fun s => (s.1, s.2.2)) ?_
    decide +kernel
  have hperm : [a, b, c].Perm [b, c, a] :=
    (List.Perm.swap b a [c]).trans ((List.Perm.swap c a []).cons b)
  exact ⟨hids, hstandings, register_eq_of_perm hperm hids hstandings⟩

end ThreatModel
