import Mathlib
import ThreatModel.Threat.Register

/-!
# Records by their place

`register` sorts what `recordsOf` gives, and `recordsOf` makes one record of each draft, in order.
Its ids depend on the drafts in front of a place only:

* `recordsOf_eq_mapIdx` : the record at a place is that of its draft, numbered by the drafts in
  front of it with the same base id;
* `forall₂_recordsOf` : apart from the ids, drafts are rated one by one.

To number a draft it is enough to keep how often each base id came before, in a map that one more
draft changes at one place (`recordsOf_eq_map_counted`).
-/

namespace ThreatModel

variable {ds es : List Draft} {d : Draft} {r : ThreatRecord}

/-- How many drafts in front of a place have this base id. -/
def earlier (ds : List Draft) (i : Nat) (base : String) : Nat :=
  (ds.take i).countP fun d => d.baseId == base

@[simp] theorem earlier_zero (ds : List Draft) (base : String) : earlier ds 0 base = 0 := by
  simp [earlier]

@[simp] theorem earlier_cons_succ (d : Draft) (ds : List Draft) (i : Nat) (base : String) :
    earlier (d :: ds) (i + 1) base = earlier ds i base + if d.baseId = base then 1 else 0 := by
  simp [earlier, List.countP_cons]

theorem identified_eq_mapIdx (seen : List String) (ds : List Draft) :
    identified seen ds = ds.mapIdx fun i d =>
      (numberedId d.baseId (seen.count d.baseId + earlier ds i d.baseId), d) := by
  induction ds generalizing seen with
  | nil => rfl
  | cons d ds ih =>
    rw [identified, List.mapIdx_cons, ih]
    have hcount (i : Nat) (e : Draft) :
        (d.baseId :: seen).count e.baseId + earlier ds i e.baseId =
          seen.count e.baseId + earlier (d :: ds) (i + 1) e.baseId := by
      rw [earlier_cons_succ, List.count_cons]
      simp only [beq_iff_eq]
      omega
    simp only [hcount, earlier_zero, Nat.add_zero]

theorem getElem?_recordsOf (ds : List Draft) (i : Nat) :
    (recordsOf ds)[i]? = ds[i]?.map fun d =>
      ThreatRecord.ofDraft (numberedId d.baseId (earlier ds i d.baseId)) d := by
  rw [recordsOf, identified_eq_mapIdx, List.getElem?_map, List.getElem?_mapIdx, Option.map_map]
  simp [Function.comp_def]

/-- **The record at a place is that of its draft, with the number of its base id.** -/
theorem recordsOf_eq_mapIdx (ds : List Draft) :
    recordsOf ds = ds.mapIdx fun i d =>
      ThreatRecord.ofDraft (numberedId d.baseId (earlier ds i d.baseId)) d := by
  refine List.ext_getElem? fun i => ?_
  rw [getElem?_recordsOf, List.getElem?_mapIdx]

@[simp] theorem length_recordsOf (ds : List Draft) : (recordsOf ds).length = ds.length := by
  rw [recordsOf_eq_mapIdx, List.length_mapIdx]

/-- Apart from the ids, drafts are rated one by one. -/
theorem forall₂_recordsOf (ds : List Draft) :
    List.Forall₂ (fun d r => r = ThreatRecord.ofDraft r.id d) ds (recordsOf ds) := by
  rw [List.forall₂_iff_get]
  refine ⟨(length_recordsOf ds).symm, ?_⟩
  intro i h₁ h₂
  have h := getElem?_recordsOf ds i
  rw [List.getElem?_eq_getElem h₁, List.getElem?_eq_getElem h₂, Option.map_some,
    Option.some.injEq] at h
  simp only [List.get_eq_getElem]
  rw [h]
  rfl

/-! ### Counts of base ids -/

/-- Drafts with their ids; `counts` tells how often a base id came before. -/
def counted (counts : Std.HashMap String ℕ) : List Draft → List (String × Draft)
  | [] => []
  | d :: ds =>
    let count := counts.getD d.baseId 0 + 1
    let id := if count = 1 then d.baseId else s!"{d.baseId}-{count}"
    (id, d) :: counted (counts.insert d.baseId count) ds

/-- The base ids that came before and their counts lead to the same ids. -/
theorem counted_eq_identified {counts : Std.HashMap String ℕ} {seen : List String}
    (h : ∀ base, counts.getD base 0 = seen.count base) (ds : List Draft) :
    counted counts ds = identified seen ds := by
  induction ds generalizing counts seen with
  | nil => rfl
  | cons d ds ih =>
    have hcounts (base : String) :
        (counts.insert d.baseId (counts.getD d.baseId 0 + 1)).getD base 0 =
          (d.baseId :: seen).count base := by
      rw [Std.HashMap.getD_insert, List.count_cons, ← h base]
      by_cases hbase : d.baseId = base
      · simp [hbase]
      · simp [hbase]
    rw [counted, identified, ih hcounts, numberedId, ← h]
    simp

theorem recordsOf_eq_map_counted (ds : List Draft) :
    recordsOf ds = (counted ∅ ds).map fun p => ThreatRecord.ofDraft p.1 p.2 := by
  rw [recordsOf, counted_eq_identified]
  simp

end ThreatModel
