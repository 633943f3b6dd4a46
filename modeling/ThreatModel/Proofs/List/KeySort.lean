import Mathlib

/-!
# Sorting by a key

A comparison that compares keys in a linear order sorts a list by these keys
(`pairwise_mergeSort_of_comparesBy`), and items with one key stay in their order
(`filter_mergeSort_of_comparesBy`). The comparison needs to do so only for the items of the list.

There is only one list with these two properties (`eq_of_pairwise_le_of_filter_eq`).

Where keys differ they decide alone: an item stands in front of every one with a larger key
(`sublist_mergeSort_of_lt`), and if no two items have one key, the order in which they came does not
matter (`mergeSort_eq_of_perm`). Nor does it matter for items that are their own keys, and without
repetitions these are in strict order (`pairwise_eraseDups_mergeSort`).
-/

namespace ThreatModel

variable {α κ : Type*} [LinearOrder κ] {le : α → α → Bool} {key : α → κ} {l : List α}

/-- Comparing two items of a list is comparing their keys. -/
def ComparesBy (le : α → α → Bool) (key : α → κ) (l : List α) : Prop :=
  ∀ a ∈ l, ∀ b ∈ l, le a b = decide (key a ≤ key b)

theorem keys_trans (key : α → κ) (a b c : α) (hab : decide (key a ≤ key b) = true)
    (hbc : decide (key b ≤ key c) = true) : decide (key a ≤ key c) = true :=
  decide_eq_true ((of_decide_eq_true hab).trans (of_decide_eq_true hbc))

theorem keys_total (key : α → κ) (a b : α) :
    (decide (key a ≤ key b) || decide (key b ≤ key a)) = true := by
  rw [Bool.or_eq_true, decide_eq_true_eq, decide_eq_true_eq]
  exact le_total (key a) (key b)

theorem mergeSort_of_comparesBy (h : ComparesBy le key l) :
    l.mergeSort le = l.mergeSort fun a b => decide (key a ≤ key b) := by
  have hmap := List.map_mergeSort (r := le) (s := fun a b => decide (key a ≤ key b)) (f := id) h
  rwa [List.map_id, List.map_id] at hmap

/-- Keys are in order after sorting. -/
theorem pairwise_mergeSort_of_comparesBy (h : ComparesBy le key l) :
    (l.mergeSort le).Pairwise fun a b => key a ≤ key b := by
  rw [mergeSort_of_comparesBy h]
  exact (List.pairwise_mergeSort (keys_trans key) (keys_total key) l).imp of_decide_eq_true

/-- Items with one key stay in their order. -/
theorem filter_mergeSort_of_comparesBy (h : ComparesBy le key l) (k : κ) :
    (l.mergeSort le).filter (fun a => decide (key a = k)) =
      l.filter fun a => decide (key a = k) := by
  rw [mergeSort_of_comparesBy h]
  have hsame : (l.filter fun a => decide (key a = k)).Pairwise fun a b =>
      decide (key a ≤ key b) = true := by
    refine List.pairwise_of_forall_mem_list ?_
    intro a ha b hb
    have hka : key a = k := of_decide_eq_true (List.mem_filter.1 ha).2
    have hkb : key b = k := of_decide_eq_true (List.mem_filter.1 hb).2
    exact decide_eq_true (hka.trans hkb.symm).le
  have hsub := (List.sublist_mergeSort (keys_trans key) (keys_total key) hsame
    List.filter_sublist).filter fun a => decide (key a = k)
  rw [List.filter_filter] at hsub
  simp only [Bool.and_self] at hsub
  have hlen := ((List.mergeSort_perm l fun a b => decide (key a ≤ key b)).filter
    fun a => decide (key a = k)).length_eq
  exact (hsub.eq_of_length hlen.symm).symm

theorem mem_of_filter_eq {l l' : List α} {a : α}
    (h : l.filter (fun b => decide (key b = key a)) = l'.filter fun b => decide (key b = key a))
    (ha : a ∈ l) : a ∈ l' := by
  have hmem : a ∈ l.filter fun b => decide (key b = key a) := by simpa using ha
  rw [h] at hmem
  exact (List.mem_filter.1 hmem).1

/-- A list in order of keys is determined by the items that have one key, and their order. -/
theorem eq_of_pairwise_le_of_filter_eq {l l' : List α} (h : l.Pairwise fun a b => key a ≤ key b)
    (h' : l'.Pairwise fun a b => key a ≤ key b)
    (hkeys : ∀ b, l.filter (fun a => decide (key a = key b)) =
      l'.filter fun a => decide (key a = key b)) : l = l' := by
  induction l generalizing l' with
  | nil =>
    cases l' with
    | nil => rfl
    | cons b l' =>
      exact absurd (mem_of_filter_eq (hkeys _).symm List.mem_cons_self) List.not_mem_nil
  | cons a l ih =>
    cases l' with
    | nil => exact absurd (mem_of_filter_eq (hkeys _) List.mem_cons_self) List.not_mem_nil
    | cons b l' =>
      rw [List.pairwise_cons] at h h'
      -- Both heads have the smallest key of all, and each is the first item with that key.
      have hab : key a ≤ key b := by
        rcases List.mem_cons.1 (mem_of_filter_eq (hkeys _).symm List.mem_cons_self) with rfl | hb
        · exact le_rfl
        · exact h.1 b hb
      have hba : key b ≤ key a := by
        rcases List.mem_cons.1 (mem_of_filter_eq (hkeys _) List.mem_cons_self) with rfl | ha
        · exact le_rfl
        · exact h'.1 a ha
      have hkey : key b = key a := le_antisymm hba hab
      have hheads := hkeys a
      rw [List.filter_cons_of_pos (by simp), List.filter_cons_of_pos (by simpa using hkey),
        List.cons.injEq] at hheads
      obtain ⟨rfl, -⟩ := hheads
      refine congrArg (a :: ·) (ih h.2 h'.2 ?_)
      intro c
      have hc := hkeys c
      by_cases ha : key a = key c
      · rw [List.filter_cons_of_pos (by simpa using ha),
          List.filter_cons_of_pos (by simpa using ha)] at hc
        exact List.tail_eq_of_cons_eq hc
      · rwa [List.filter_cons_of_neg (by simpa using ha),
          List.filter_cons_of_neg (by simpa using ha)] at hc

/-! ### Different keys -/

variable {l' : List α} {a b : α}

theorem ComparesBy.of_perm (h : ComparesBy le key l) (hperm : l.Perm l') :
    ComparesBy le key l' := by
  intro a ha b hb
  exact h a (hperm.mem_iff.2 ha) b (hperm.mem_iff.2 hb)

/-- Lists of the same items are sorted to one list if no two items have one key. -/
theorem mergeSort_eq_of_perm (h : ComparesBy le key l) (hperm : l.Perm l')
    (hkeys : (l.map key).Nodup) : l.mergeSort le = l'.mergeSort le := by
  have hsorted : (l.mergeSort le).Perm (l'.mergeSort le) :=
    (List.mergeSort_perm l le).trans (hperm.trans (List.mergeSort_perm l' le).symm)
  refine List.Perm.eq_of_pairwise ?_ (pairwise_mergeSort_of_comparesBy h)
    (pairwise_mergeSort_of_comparesBy (h.of_perm hperm)) hsorted
  intro a b ha hb hab hba
  have hmem : b ∈ l := hperm.mem_iff.2 (List.mem_mergeSort.1 hb)
  exact List.inj_on_of_nodup_map hkeys (List.mem_mergeSort.1 ha) hmem (le_antisymm hab hba)

/-- In a list in order of keys, an item stands in front of every one with a larger key. -/
theorem sublist_of_pairwise_le (h : l.Pairwise fun a b => key a ≤ key b) (ha : a ∈ l) (hb : b ∈ l)
    (hlt : key a < key b) : [a, b].Sublist l := by
  obtain ⟨s, t, rfl⟩ := List.append_of_mem ha
  rcases List.mem_append.1 hb with hs | ht
  · have hle : key b ≤ key a := (List.pairwise_append.1 h).2.2 b hs a List.mem_cons_self
    exact absurd hlt (not_lt.2 hle)
  · rcases List.mem_cons.1 ht with rfl | ht
    · exact absurd hlt (lt_irrefl _)
    · have htail : [a, b].Sublist (a :: t) := (List.singleton_sublist.2 ht).cons_cons a
      exact htail.trans (List.sublist_append_right s (a :: t))

/-- After sorting, an item stands in front of every one with a larger key. -/
theorem sublist_mergeSort_of_lt (h : ComparesBy le key l) (ha : a ∈ l) (hb : b ∈ l)
    (hlt : key a < key b) : [a, b].Sublist (l.mergeSort le) :=
  sublist_of_pairwise_le (pairwise_mergeSort_of_comparesBy h) (List.mem_mergeSort.2 ha)
    (List.mem_mergeSort.2 hb) hlt

/-! ### Items that are their own keys -/

theorem eraseDups_sublist {α : Type*} [BEq α] [LawfulBEq α] (l : List α) :
    l.eraseDups.Sublist l := by
  cases l with
  | nil => exact List.Sublist.refl _
  | cons a l =>
    rw [List.eraseDups_cons]
    have hrest := eraseDups_sublist (l.filter fun b => !b == a)
    exact (hrest.trans List.filter_sublist).cons_cons a
termination_by l.length
decreasing_by simpa using Nat.lt_succ_of_le (List.length_filter_le (fun b => !b == a) l)

theorem nodup_eraseDups {α : Type*} [BEq α] [LawfulBEq α] (l : List α) : l.eraseDups.Nodup := by
  cases l with
  | nil => exact List.nodup_nil
  | cons a l =>
    rw [List.eraseDups_cons, List.nodup_cons]
    refine ⟨?_, nodup_eraseDups (l.filter fun b => !b == a)⟩
    simp [List.mem_eraseDups]
termination_by l.length
decreasing_by simpa using Nat.lt_succ_of_le (List.length_filter_le (fun b => !b == a) l)

variable {ks ks' : List κ}

theorem pairwise_mergeSort_le (ks : List κ) :
    (ks.mergeSort fun a b => decide (a ≤ b)).Pairwise (· ≤ ·) := by
  have hkeys : ComparesBy (fun a b => decide (a ≤ b)) id ks := fun _ _ _ _ => rfl
  exact pairwise_mergeSort_of_comparesBy hkeys

/-- Without repetitions, sorted items are in strict order. -/
theorem pairwise_eraseDups_mergeSort (ks : List κ) :
    (ks.mergeSort fun a b => decide (a ≤ b)).eraseDups.Pairwise (· < ·) := by
  have hle := (pairwise_mergeSort_le ks).sublist (eraseDups_sublist _)
  have hne : (ks.mergeSort fun a b => decide (a ≤ b)).eraseDups.Pairwise (· ≠ ·) :=
    nodup_eraseDups _
  exact (hle.and hne).imp fun h => lt_of_le_of_ne h.1 h.2

/-- Lists of the same items are sorted to one list, also if items occur more than once. -/
theorem mergeSort_le_eq_of_perm (h : ks.Perm ks') :
    ks.mergeSort (fun a b => decide (a ≤ b)) = ks'.mergeSort fun a b => decide (a ≤ b) := by
  have hsorted := (List.mergeSort_perm ks fun a b => decide (a ≤ b)).trans
    (h.trans (List.mergeSort_perm ks' fun a b => decide (a ≤ b)).symm)
  exact hsorted.eq_of_pairwise (fun _ _ _ _ => le_antisymm) (pairwise_mergeSort_le ks)
    (pairwise_mergeSort_le ks')

end ThreatModel
