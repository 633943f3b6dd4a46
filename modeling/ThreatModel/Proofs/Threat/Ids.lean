import ThreatModel.Proofs.Threat.Records

/-!
# Ids of threats

The first draft with some base id keeps it, and the `k`-th one has `-k` behind it. No two threats of
a register have the same id, and threats that are added behind the others change none
(`ids_unique_and_stable`).

All base ids have one length (`length_baseId`), so the base id and the number can be told from the
id (`numberedId_inj`); and of two drafts with one base id the later one has the larger number
(`earlier_lt_earlier`). So no record occurs twice, and every draft has a place of its own in the
register (`exists_places`).
-/

namespace ThreatModel

variable {ds : List Draft} {d : Draft}

/-! ### Reading an id back -/

/-- Three characters, and the digits of the digest. -/
theorem length_baseId (d : Draft) : d.baseId.length = 13 := by
  have hdigits := Digest.length_hexText (Digest.sha256 (utf8Bytes d.identity))
  rw [Digest.length_sha256] at hdigits
  have hprefix : "TM-".length = 3 := by decide
  rw [Draft.baseId, String.length_append, hprefix, String.length_ofList, List.length_take, hdigits]
  decide

/-- What stands behind the base id. -/
def numberSuffix (n : Nat) : String := if n = 0 then "" else "-" ++ toString (n + 1)

theorem numberedId_eq (base : String) (n : Nat) :
    numberedId base n = if n = 0 then base else base ++ "-" ++ toString (n + 1) := by
  rw [numberedId]
  split_ifs
  · rfl
  · simp [toString]

theorem numberedId_eq_append (base : String) (n : Nat) :
    numberedId base n = base ++ numberSuffix n := by
  rw [numberedId_eq, numberSuffix]
  split_ifs
  · rw [String.append_empty]
  · rw [String.append_assoc]

theorem numberSuffix_inj {m n : Nat} (h : numberSuffix m = numberSuffix n) : m = n := by
  have hne (k : Nat) : "-" ++ toString (k + 1) ≠ "" := by
    intro he
    have hlen := congrArg String.length he
    rw [String.length_append] at hlen
    simp at hlen
  unfold numberSuffix at h
  split_ifs at h with hm hn hn
  · rw [hm, hn]
  · exact absurd h.symm (hne n)
  · exact absurd h (hne m)
  · have hrepr := Nat.repr_inj.1 ((String.append_right_inj "-").1 h)
    omega

/-- Among base ids of one length, an id tells its base id and its number. -/
theorem numberedId_inj {a b : String} (hlen : a.length = b.length) {m n : Nat}
    (h : numberedId a m = numberedId b n) : a = b ∧ m = n := by
  rw [numberedId_eq_append, numberedId_eq_append] at h
  have hlist := congrArg String.toList h
  rw [String.toList_append, String.toList_append] at hlist
  have hlen' : a.toList.length = b.toList.length := by
    rw [String.length_toList, String.length_toList, hlen]
  obtain ⟨hbase, hsuffix⟩ := List.append_inj hlist hlen'
  exact ⟨String.toList_inj.1 hbase, numberSuffix_inj (String.toList_inj.1 hsuffix)⟩

/-! ### Counting earlier drafts -/

theorem earlier_mono (ds : List Draft) {i j : Nat} (h : i ≤ j) (base : String) :
    earlier ds i base ≤ earlier ds j base :=
  (List.take_sublist_take_left h).countP_le

/-- A draft counts for all later ones with its base id. -/
theorem earlier_lt_earlier {i j : Nat} (hij : i < j) (hd : ds[i]? = some d) :
    earlier ds i d.baseId < earlier ds j d.baseId := by
  have hnext : earlier ds (i + 1) d.baseId = earlier ds i d.baseId + 1 := by
    rw [earlier, List.take_add_one, hd, List.countP_append]
    simp [earlier]
  have hle : earlier ds (i + 1) d.baseId ≤ earlier ds j d.baseId := earlier_mono ds hij d.baseId
  omega

/-! ### The ids of a register -/

theorem nodup_ids_recordsOf (ds : List Draft) : ((recordsOf ds).map (·.id)).Nodup := by
  rw [List.nodup_iff_getElem?_ne_getElem?]
  intro i j hij hj he
  rw [List.length_map, length_recordsOf] at hj
  have hi : i < ds.length := Nat.lt_trans hij hj
  simp only [List.getElem?_map, getElem?_recordsOf, List.getElem?_eq_getElem hi,
    List.getElem?_eq_getElem hj, Option.map_some, Option.some.injEq] at he
  have hlen : ds[i].baseId.length = ds[j].baseId.length := by
    rw [length_baseId, length_baseId]
  obtain ⟨hbase, hnumber⟩ := numberedId_inj hlen he
  have hlt := earlier_lt_earlier hij (List.getElem?_eq_getElem hi)
  rw [hnumber, hbase] at hlt
  exact Nat.lt_irrefl _ hlt

/-- What drafts get does not depend on those behind them. -/
theorem identified_append (seen : List String) (ds es : List Draft) :
    ∃ seen', identified seen (ds ++ es) = identified seen ds ++ identified seen' es := by
  induction ds generalizing seen with
  | nil => exact ⟨seen, rfl⟩
  | cons d ds ih =>
    obtain ⟨seen', h⟩ := ih (d.baseId :: seen)
    exact ⟨seen', by rw [List.cons_append, identified, identified, h, List.cons_append]⟩

theorem recordsOf_prefix (ds es : List Draft) : recordsOf ds <+: recordsOf (ds ++ es) := by
  obtain ⟨seen', h⟩ := identified_append [] ds es
  rw [recordsOf, recordsOf, h, List.map_append]
  exact List.prefix_append _ _

/-- Permuted lists without repetitions hold the same items at other places. -/
theorem exists_equiv_of_perm {α : Type*} [DecidableEq α] {l l' : List α} (h : l.Perm l')
    (hl : l.Nodup) : ∃ e : Fin l.length ≃ Fin l'.length, ∀ i, l'[e i] = l[i] := by
  have hl' : l'.Nodup := h.nodup_iff.1 hl
  have hmem (x : α) : x ∈ l ↔ x ∈ l' := h.mem_iff
  refine ⟨(hl.getEquiv l).trans ((Equiv.subtypeEquivRight hmem).trans (hl'.getEquiv l').symm), ?_⟩
  intro i
  exact congrArg Subtype.val ((hl'.getEquiv l').apply_symm_apply _)

/-- **Every draft has a place of its own in the register**, where its record stands: no two records
are equal, because their ids differ. -/
theorem exists_places (ds : List Draft) :
    ∃ e : Fin ds.length ≃ Fin (register ds).length,
      ∀ i : Fin ds.length, (recordsOf ds)[i.val]? = some (register ds)[e i] := by
  have hnodup : (recordsOf ds).Nodup := (nodup_ids_recordsOf ds).of_map _
  obtain ⟨e, he⟩ := exists_equiv_of_perm (register_perm ds).symm hnodup
  have hlen := (length_recordsOf ds).symm
  refine ⟨(finCongr hlen).trans e, fun i => ?_⟩
  calc (recordsOf ds)[i.val]? = some (recordsOf ds)[finCongr hlen i] := List.getElem?_eq_getElem _
    _ = some (register ds)[e (finCongr hlen i)] := congrArg some (he _).symm

/-- **Ids are unique and stable.** The records of a register are those of the drafts in their order;
the id of each is its base id, with a number if there are earlier drafts with the same one; no two
ids are equal; and drafts that are added behind the others change no record in front of them. -/
theorem ids_unique_and_stable (ds es : List Draft) :
    (register ds).Perm (recordsOf ds) ∧
      (recordsOf ds = ds.mapIdx fun i d =>
        let n := earlier ds i d.baseId
        ThreatRecord.ofDraft (if n = 0 then d.baseId else d.baseId ++ "-" ++ toString (n + 1)) d) ∧
      ((register ds).map (·.id)).Nodup ∧
      recordsOf ds <+: recordsOf (ds ++ es) := by
  refine ⟨register_perm ds, ?_, ?_, recordsOf_prefix ds es⟩
  · rw [recordsOf_eq_mapIdx]
    simp only [numberedId_eq]
  · exact ((register_perm ds).map _).nodup_iff.2 (nodup_ids_recordsOf ds)

end ThreatModel
