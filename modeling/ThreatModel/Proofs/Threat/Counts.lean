import Mathlib
import ThreatModel.Threat.Summary

/-!
# Summaries add up

A summary counts the threats of each severity and of each category, under their names. Both are a
`tally` of what the records have: all severities have a counter from the start, and a category has
one as soon as it occurs.

Counting one more item adds one to its counter, or makes it (`tally_cons`). So a tally can be made
item by item, its counters add up to the number of items (`sum_tally`), and a summary is what
counting its records one after the other comes to (`Summary.foldl_add`). What the counters are is
said by `IsTally`, without regard to how they are made; `summary_adds_up` has all of it.
-/

namespace ThreatModel

/-! ### Counters -/

/-- One more under a name, among counters in the order of their names. A new counter starts at
one. -/
def bump (k : String) : List (String × ℕ) → List (String × ℕ)
  | [] => [(k, 1)]
  | c :: cs =>
    if c.1 = k then (k, c.2 + 1) :: cs
    else if k < c.1 then (k, 1) :: c :: cs
    else c :: bump k cs

theorem sum_bump (k : String) (cs : List (String × ℕ)) :
    ((bump k cs).map Prod.snd).sum = (cs.map Prod.snd).sum + 1 := by
  induction cs with
  | nil => rfl
  | cons c cs ih =>
    rw [bump]
    split_ifs
    · simp only [List.map_cons, List.sum_cons]
      omega
    · simp only [List.map_cons, List.sum_cons]
      omega
    · simp only [List.map_cons, List.sum_cons, ih]
      omega

theorem bump_of_forall_lt {k : String} {cs : List (String × ℕ)} (h : ∀ c ∈ cs, k < c.1) :
    bump k cs = (k, 1) :: cs := by
  cases cs with
  | nil => rfl
  | cons c cs =>
    have hc := h c List.mem_cons_self
    rw [bump, if_neg hc.ne', if_pos hc]

theorem bump_cons_of_lt {k : String} {c : String × ℕ} (h : c.1 < k) (cs : List (String × ℕ)) :
    bump k (c :: cs) = c :: bump k cs := by
  rw [bump, if_neg h.ne, if_neg h.asymm]

/-! ### Tallies -/

section Tally

variable {α : Type} [DecidableEq α] {name : α → String} {as xs : List α} {a : α} {seeded : Bool}

/-- How often each of `as` is among `xs`, under its name; without seeds only for those that are. -/
def tally (name : α → String) (as : List α) (seeded : Bool) (xs : List α) : List (String × ℕ) :=
  (as.map fun a => (name a, xs.count a)).filter fun c => seeded || c.2 != 0

/-- The counters of `xs`, in the order of their names: each counts one item, and every item has one
that occurs, or that has it from the start. -/
structure IsTally (name : α → String) (seeded : Bool) (xs : List α) (cs : List (String × ℕ)) :
    Prop where
  ordered : cs.Pairwise fun c d => c.1 < d.1
  mem_iff : ∀ k n, (k, n) ∈ cs ↔ ∃ a, (seeded = true ∨ a ∈ xs) ∧ k = name a ∧ n = xs.count a

/-- Whether an item has a counter. -/
def hasCounter (seeded : Bool) (xs : List α) (a : α) : Bool := seeded || xs.count a != 0

theorem hasCounter_iff : hasCounter seeded xs a = true ↔ seeded = true ∨ a ∈ xs := by
  rw [hasCounter, Bool.or_eq_true, bne_iff_ne, ← List.count_pos_iff, Nat.pos_iff_ne_zero]

theorem tally_cons_counter (name : α → String) (b : α) (bs : List α) (seeded : Bool) (xs : List α) :
    tally name (b :: bs) seeded xs =
      if hasCounter seeded xs b then (name b, xs.count b) :: tally name bs seeded xs
      else tally name bs seeded xs := by
  rw [tally, List.map_cons, List.filter_cons]
  rfl

theorem mem_tally {c : String × ℕ} :
    c ∈ tally name as seeded xs ↔
      ∃ a ∈ as, hasCounter seeded xs a = true ∧ (name a, xs.count a) = c := by
  simp only [tally, List.mem_filter, List.mem_map, hasCounter]
  constructor
  · rintro ⟨⟨a, ha, rfl⟩, h⟩
    exact ⟨a, ha, h, rfl⟩
  · rintro ⟨a, ha, h, rfl⟩
    exact ⟨⟨a, ha, rfl⟩, h⟩

/-- An item has no part in the counters of others. -/
theorem tally_cons_of_notMem (ha : a ∉ as) (xs : List α) :
    tally name as seeded (a :: xs) = tally name as seeded xs := by
  have hcount : as.map (fun b => (name b, (a :: xs).count b)) =
      as.map fun b => (name b, xs.count b) := by
    refine List.map_congr_left fun b hb => ?_
    rw [List.count_cons_of_ne (ne_of_mem_of_not_mem hb ha).symm]
  rw [tally, hcount, tally]

theorem sum_tally_nil (name : α → String) (as : List α) (seeded : Bool) :
    ((tally name as seeded []).map Prod.snd).sum = 0 := by
  refine List.sum_eq_zero fun n hn => ?_
  obtain ⟨c, hc, rfl⟩ := List.mem_map.1 hn
  obtain ⟨a, -, -, rfl⟩ := mem_tally.1 hc
  exact List.count_eq_zero.2 List.not_mem_nil

variable (hnames : as.Pairwise fun a b => name a < name b)

include hnames

/-- **One more item is one more in its counter.** -/
theorem tally_cons (ha : a ∈ as) (xs : List α) :
    tally name as seeded (a :: xs) = bump (name a) (tally name as seeded xs) := by
  induction as with
  | nil => cases ha
  | cons b bs ih =>
    obtain ⟨hb, hbs⟩ := List.pairwise_cons.1 hnames
    rw [tally_cons_counter, tally_cons_counter]
    by_cases hab : a = b
    · subst hab
      have hnot : a ∉ bs := fun h => lt_irrefl _ (hb a h)
      have hcounter : hasCounter seeded (a :: xs) a = true :=
        hasCounter_iff.2 (.inr List.mem_cons_self)
      rw [if_pos hcounter, List.count_cons_self, tally_cons_of_notMem hnot]
      split_ifs with h
      · rw [bump, if_pos rfl]
      · -- The counter is new, and the others have names behind its own.
        have hnotMem : a ∉ xs := fun hmem => h (hasCounter_iff.2 (.inr hmem))
        have hzero : xs.count a = 0 := List.count_eq_zero.2 hnotMem
        rw [hzero, bump_of_forall_lt]
        intro c hc
        obtain ⟨d, hd, -, rfl⟩ := mem_tally.1 hc
        exact hb d hd
    · have hmem : a ∈ bs := (List.mem_cons.1 ha).resolve_left hab
      have hcount : (a :: xs).count b = xs.count b := List.count_cons_of_ne hab
      have hsame : hasCounter seeded (a :: xs) b = hasCounter seeded xs b := by
        rw [hasCounter, hasCounter, hcount]
      rw [hsame, hcount, ih hbs hmem]
      split_ifs
      · rw [bump_cons_of_lt (hb a hmem)]
      · rfl

variable (hall : ∀ a, a ∈ as)

include hall

/-- The counters add up to the number of items. -/
theorem sum_tally (xs : List α) : ((tally name as seeded xs).map Prod.snd).sum = xs.length := by
  induction xs with
  | nil => exact sum_tally_nil name as seeded
  | cons a xs ih => rw [tally_cons hnames (hall a), sum_bump, ih, List.length_cons]

theorem isTally_tally (xs : List α) : IsTally name seeded xs (tally name as seeded xs) where
  ordered := by
    have hordered : (as.map fun a => (name a, xs.count a)).Pairwise fun c d => c.1 < d.1 :=
      List.pairwise_map.2 hnames
    exact hordered.filter _
  mem_iff k n := by
    rw [mem_tally]
    constructor
    · rintro ⟨a, -, hcounter, heq⟩
      obtain ⟨rfl, rfl⟩ := Prod.mk.inj heq
      exact ⟨a, hasCounter_iff.1 hcounter, rfl, rfl⟩
    · rintro ⟨a, h, rfl, rfl⟩
      exact ⟨a, hall a, hasCounter_iff.2 h, rfl⟩

end Tally

/-! ### Summaries -/

namespace Summary

variable {rs qs : List ThreatRecord}

/-- The summary of no threats. -/
def initial : Summary :=
  ⟨0, [("Critical", 0), ("High", 0), ("Low", 0), ("Medium", 0)], []⟩

/-- A summary with one more threat. -/
def add (s : Summary) (r : ThreatRecord) : Summary where
  total := s.total + 1
  bySeverity := bump r.severity.name s.bySeverity
  byCategory := bump r.category.name s.byCategory

theorem severities_ordered : severities.Pairwise fun a b => a.name < b.name := by decide

theorem categories_ordered : categories.Pairwise fun a b => a.name < b.name := by decide

theorem mem_severities (s : Severity) : s ∈ severities := by cases s <;> decide

theorem mem_categories (c : Stride) : c ∈ categories := by cases c <;> decide

theorem bySeverity_ofRecords (rs : List ThreatRecord) :
    (ofRecords rs).bySeverity = tally Severity.name severities true (rs.map (·.severity)) := by
  simp [ofRecords, tally, List.count, List.countP_map, Function.comp_def]

theorem byCategory_ofRecords (rs : List ThreatRecord) :
    (ofRecords rs).byCategory = tally Stride.name categories false (rs.map (·.category)) := by
  simp [ofRecords, tally, List.count, List.countP_map, Function.comp_def]

theorem ofRecords_cons (r : ThreatRecord) (rs : List ThreatRecord) :
    ofRecords (r :: rs) = (ofRecords rs).add r := by
  rw [add, bySeverity_ofRecords, byCategory_ofRecords,
    ← tally_cons severities_ordered (mem_severities _),
    ← tally_cons categories_ordered (mem_categories _), ← List.map_cons, ← List.map_cons,
    ← bySeverity_ofRecords, ← byCategory_ofRecords]
  rfl

theorem ofRecords_eq_of_perm (h : rs.Perm qs) : ofRecords rs = ofRecords qs := by
  simp only [ofRecords, h.length_eq, h.countP_eq]

/-- **Counting the records one after the other** gives the summary. -/
theorem foldl_add (rs : List ThreatRecord) : rs.foldl add initial = ofRecords rs := by
  have hall (qs : List ThreatRecord) :
      rs.foldl add (ofRecords qs) = ofRecords (rs.reverse ++ qs) := by
    induction rs generalizing qs with
    | nil => rfl
    | cons r rs ih =>
      rw [List.foldl_cons, ← ofRecords_cons, ih, List.reverse_cons, List.append_assoc]
      rfl
  have hnil : initial = ofRecords [] := by decide
  rw [hnil, hall, List.append_nil]
  exact ofRecords_eq_of_perm rs.reverse_perm

/-- **A summary adds up.** Its counters are those of the records, of all severities and of the
categories that occur; both add up to the number of records; it is what counting the records one
after the other gives, and does not depend on their order. -/
theorem summary_adds_up (rs : List ThreatRecord) :
    let s := ofRecords rs
    s.total = rs.length ∧
      (s.bySeverity.map Prod.snd).sum = rs.length ∧
      (s.byCategory.map Prod.snd).sum = rs.length ∧
      s.bySeverity.map Prod.fst = ["Critical", "High", "Low", "Medium"] ∧
      IsTally Severity.name true (rs.map (·.severity)) s.bySeverity ∧
      IsTally Stride.name false (rs.map (·.category)) s.byCategory ∧
      rs.foldl add initial = s ∧
      ∀ qs, rs.Perm qs → ofRecords qs = s := by
  intro s
  refine ⟨rfl, ?_, ?_, rfl, ?_, ?_, foldl_add rs, fun qs h => (ofRecords_eq_of_perm h).symm⟩
  · rw [bySeverity_ofRecords, sum_tally severities_ordered mem_severities, List.length_map]
  · rw [byCategory_ofRecords, sum_tally categories_ordered mem_categories, List.length_map]
  · rw [bySeverity_ofRecords]
    exact isTally_tally severities_ordered mem_severities _
  · rw [byCategory_ofRecords]
    exact isTally_tally categories_ordered mem_categories _

/-- Two threats in both orders. -/
theorem summary_of_two_threats :
    let tampering : ThreatRecord := { (default : ThreatRecord) with category := .tampering }
    let spoofing : ThreatRecord := { (default : ThreatRecord) with category := .spoofing }
    ofRecords [tampering, spoofing] = ofRecords [spoofing, tampering] ∧
      (ofRecords [spoofing, tampering]).byCategory = [("Spoofing", 1), ("Tampering", 1)] := by
  intro tampering spoofing
  obtain ⟨-, -, -, -, -, -, -, hperm⟩ := summary_adds_up [spoofing, tampering]
  exact ⟨hperm _ (List.Perm.swap _ _ _), by decide⟩

end Summary

end ThreatModel
