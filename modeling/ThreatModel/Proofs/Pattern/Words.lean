import Mathlib
import ThreatModel.Pattern.Search
import ThreatModel.Proofs.Text.Classes

/-!
# The words of a pattern

A match is a word behind a place: `Pattern.Spells` says which words a pattern has, one case for
every form of a pattern. Matching finds words only (`exists_spells_of_run`), and for patterns that do
not look at the characters around a word (`Pattern.isFree`) it finds one wherever there is one and
what follows succeeds (`isSome_run_of_spells`), though which one depends on the order in which the
possible matches are tried.

The words of combined patterns are those of the parts (`spells_seqs_cons`, `spells_choice`), and
runs of characters of one set are counted (`spells_exactly`, `spells_atLeast`). Which match is the
first is decided from the front: a run takes all it can (`run_many_of_some`), and of several patterns
the first that matches counts (`run_choice_of_some`).
-/

namespace ThreatModel

open Text (Cursor utf8Length)

/-! ### Places behind a word -/

namespace Text.Cursor

variable {k : Cursor} {w r : List Char}

/-- The place behind the word `w`, with `r` after it. -/
def pass (k : Cursor) (w r : List Char) : Cursor :=
  ⟨w.reverse ++ k.before, r, k.offset + utf8Length w, by simp [k.offset_eq, Nat.add_comm]⟩

theorem ext_of_before {k k' : Cursor} (hbefore : k.before = k'.before) (hafter : k.after = k'.after) :
    k = k' := by
  obtain ⟨b, a, n, hn⟩ := k
  obtain ⟨b', a', n', hn'⟩ := k'
  subst hbefore hafter hn hn'
  rfl

@[simp] theorem after_start (cs : List Char) : (start cs).after = cs := rfl

@[simp] theorem after_push (k : Cursor) (c : Char) (r : List Char) : (k.push c r).after = r := rfl

@[simp] theorem after_pass (k : Cursor) (w r : List Char) : (k.pass w r).after = r := rfl

@[simp] theorem offset_pass (k : Cursor) (w r : List Char) :
    (k.pass w r).offset = k.offset + utf8Length w := rfl

theorem pass_nil (h : k.after = r) : k.pass [] r = k :=
  ext_of_before rfl h.symm

theorem push_eq_pass (k : Cursor) (c : Char) (r : List Char) : k.push c r = k.pass [c] r := rfl

@[simp] theorem pass_pass (k : Cursor) (a b r r' : List Char) :
    (k.pass a r').pass b r = k.pass (a ++ b) r :=
  ext_of_before (by simp [pass]) rfl

theorem back_pass (k : Cursor) (w : List Char) (c : Char) (r : List Char) :
    (k.pass (w ++ [c]) r).back = k.pass w (c :: r) := by
  unfold back
  split
  next h => simp [pass] at h
  next d b h =>
    obtain ⟨rfl, rfl⟩ : c = d ∧ w.reverse ++ k.before = b := by simpa [pass] using h
    exact ext_of_before rfl rfl

theorem upTo_pass (h : k.after = w ++ r) : k.upTo (k.pass w r) = w := by
  rw [upTo, after_pass, h, List.length_append, Nat.add_sub_cancel, List.take_left]

end Text.Cursor

/-! ### Letters in any case -/

namespace CharSet

theorem anyCase_of_not_isAlpha (s : CharSet) {c : Char} (h : c.isAlpha = false)
    (hk : c ≠ '\u212a') (hs : c ≠ '\u017f') : anyCase s c = s c := by
  have hc : c.isUpper = false ∧ c.isLower = false := Bool.or_eq_false_iff.1 h
  rw [anyCase, Char.toLower_eq_of_not_isUpper (by simp [hc]),
    Char.toUpper_eq_of_not_isLower (by simp [hc]), beq_false_of_ne hk, beq_false_of_ne hs]
  simp

theorem anyCase_of_isBlank (s : CharSet) {c : Char} (h : Text.isBlank c = true) :
    anyCase s c = s c := by
  refine anyCase_of_not_isAlpha s ?_ ?_ ?_
  · rw [← Bool.not_eq_true]
    intro halpha
    rw [Text.not_isBlank_of_isAlpha halpha] at h
    cases h
  · rintro rfl
    exact absurd h (by decide)
  · rintro rfl
    exact absurd h (by decide)

/-- What is a letter in any case is a letter, or one of the two that come from others. -/
theorem isAlpha_of_anyCase_beq {c d : Char} (hc : c.isAlpha = true)
    (h : anyCase (· == c) d = true) : d.isAlpha = true ∨ d = '\u212a' ∨ d = '\u017f' := by
  by_contra hd
  rw [not_or, not_or, Bool.not_eq_true] at hd
  rw [anyCase_of_not_isAlpha _ hd.1 hd.2.1 hd.2.2, beq_iff_eq] at h
  rw [h, hc] at hd
  exact Bool.noConfusion hd.1

/-- No case of a character is a blank, unless it is one itself. -/
theorem not_isBlank_of_anyCase_beq {c d : Char} (hc : Text.isBlank c = false)
    (h : anyCase (· == c) d = true) : Text.isBlank d = false := by
  rw [← Bool.not_eq_true]
  intro hd
  rw [anyCase_of_isBlank _ hd, beq_iff_eq] at h
  rw [h, hc] at hd
  cases hd

/-- Other characters have one case only. -/
theorem eq_of_anyCase_beq {c d : Char} (hc : c.isAlpha = false) (h : anyCase (· == c) d = true) :
    d = c := by
  have hletter : ∀ l : Char, l.isAlpha = true → l ≠ c := by
    rintro l hl rfl
    rw [hc] at hl
    cases hl
  simp only [anyCase, Bool.or_eq_true, Bool.and_eq_true, beq_iff_eq] at h
  rcases h with (((h | h) | h) | ⟨-, h | h⟩) | ⟨-, h | h⟩
  · exact h
  · have hd : d.isAlpha = false := by rwa [← Char.isAlpha_toLower_eq_isAlpha, h]
    rwa [Char.toLower_eq_of_not_isUpper (by simp [(Bool.or_eq_false_iff.1 hd).1])] at h
  · have hd : d.isAlpha = false := by rwa [← Char.isAlpha_toUpper_eq_isAlpha, h]
    rwa [Char.toUpper_eq_of_not_isLower (by simp [(Bool.or_eq_false_iff.1 hd).2])] at h
  all_goals exact absurd h (hletter _ (by decide))

end CharSet

namespace Pattern

open Text.Cursor

variable {β : Type} {p q : Pattern} {s : CharSet} {k e : Cursor} {cont : Cursor → Option β} {b : β}
  {w r : List Char}

/-! ### Words -/

/-- The words that a pattern matches, whatever stands around them. -/
def Spells : Pattern → List Char → Prop
  | empty, w => w = []
  | one s, w => ∃ c, w = [c] ∧ s c = true
  | many s, w => ∀ c ∈ w, s c = true
  | seq p q, w => ∃ a b, w = a ++ b ∧ p.Spells a ∧ q.Spells b
  | alt p q, w => p.Spells w ∨ q.Spells w
  | wordEdge, w | lineStart, w | textStart, w | textEnd, w => w = []

/-- The characters that the words of a pattern may have. -/
def admits : Pattern → CharSet
  | one s, c | many s, c => s c
  | seq p q, c | alt p q, c => p.admits c || q.admits c
  | empty, _ | wordEdge, _ | lineStart, _ | textStart, _ | textEnd, _ => false

theorem Spells.admits {c : Char} (hw : p.Spells w) (hc : c ∈ w) : p.admits c = true := by
  induction p generalizing w with
  | one s =>
    obtain ⟨d, rfl, hd⟩ := hw
    exact List.mem_singleton.1 hc ▸ hd
  | many s => exact hw c hc
  | seq p q ihp ihq =>
    obtain ⟨a, b, rfl, ha, hb⟩ := hw
    rw [Pattern.admits, Bool.or_eq_true]
    exact (List.mem_append.1 hc).imp (ihp ha) (ihq hb)
  | alt p q ihp ihq =>
    rw [Pattern.admits, Bool.or_eq_true]
    exact hw.imp (fun hw => ihp hw hc) fun hw => ihq hw hc
  | empty | wordEdge | lineStart | textStart | textEnd =>
    obtain rfl : w = [] := hw
    cases hc

/-- A character that no word has. -/
theorem Spells.notMem {c : Char} (hw : p.Spells w) (h : p.admits c = false) : c ∉ w := fun hc => by
  rw [hw.admits hc] at h
  cases h

/-- Whether a pattern does not look at what stands around a word. -/
def isFree : Pattern → Bool
  | empty | one _ | many _ => true
  | seq p q | alt p q => p.isFree && q.isFree
  | wordEdge | lineStart | textStart | textEnd => false

theorem skipRun_eq (s : CharSet) (n : Nat) (k : Cursor) :
    skipRun s n k =
      (n + (k.after.takeWhile s).length, k.pass (k.after.takeWhile s) (k.after.dropWhile s)) := by
  fun_induction skipRun s n k with
  | case1 n k h => simp [h, pass_nil h]
  | case2 n k c r h hc ih =>
    rw [ih, after_push, push_eq_pass, pass_pass, h, List.takeWhile_cons_of_pos hc,
      List.dropWhile_cons_of_pos hc, List.length_cons, List.singleton_append]
    congr 1
    omega
  | case3 n k c r h hc =>
    rw [h, List.takeWhile_cons_of_neg hc, List.dropWhile_cons_of_neg hc, pass_nil h]
    rfl

theorem run_many (s : CharSet) (k : Cursor) (cont : Cursor → Option β) :
    run (many s) k cont = retreat cont (k.after.takeWhile s).length
      (k.pass (k.after.takeWhile s) (k.after.dropWhile s)) := by
  rw [run, skipRun_eq, Nat.zero_add]

theorem exists_of_retreat (h : retreat cont w.length (k.pass w r) = some b) :
    ∃ a t, w = a ++ t ∧ cont (k.pass a (t ++ r)) = some b := by
  induction w using List.reverseRecOn generalizing r with
  | nil => exact ⟨[], [], rfl, h⟩
  | append_singleton w c ih =>
    rw [List.length_append, List.length_singleton, retreat] at h
    cases hc : cont (k.pass (w ++ [c]) r) with
    | some b' =>
      rw [hc] at h
      obtain rfl := Option.some.inj h
      exact ⟨w ++ [c], [], (List.append_nil _).symm, hc⟩
    | none =>
      rw [hc, back_pass] at h
      obtain ⟨a, t, rfl, hat⟩ := ih h
      exact ⟨a, t ++ [c], List.append_assoc .., by simpa using hat⟩

theorem isSome_retreat {a t : List Char} (h : (cont (k.pass a (t ++ r))).isSome) :
    (retreat cont (a ++ t).length (k.pass (a ++ t) r)).isSome := by
  induction t using List.reverseRecOn generalizing r with
  | nil =>
    rw [List.append_nil]
    cases a using List.reverseRecOn with
    | nil => exact h
    | append_singleton a c =>
      obtain ⟨b, hb⟩ := Option.isSome_iff_exists.1 h
      rw [List.length_append, List.length_singleton, retreat]
      rw [List.nil_append] at hb
      rw [hb]
      rfl
  | append_singleton t c ih =>
    rw [← List.append_assoc, List.length_append, List.length_singleton, retreat, back_pass]
    split
    · rfl
    · exact ih (by simpa using h)

/-! ### Matching and words -/

/-- A match is a word. -/
theorem exists_spells_of_run (h : run p k cont = some b) :
    ∃ w r, k.after = w ++ r ∧ p.Spells w ∧ cont (k.pass w r) = some b := by
  induction p generalizing k cont with
  | empty => exact ⟨[], k.after, rfl, rfl, by rwa [pass_nil rfl]⟩
  | one s =>
    rw [run] at h
    split at h
    · cases h
    next c r hk =>
      split at h
      next hc => exact ⟨[c], r, hk, ⟨c, rfl, hc⟩, h⟩
      next => cases h
  | many s =>
    rw [run_many] at h
    obtain ⟨a, t, hat, hcont⟩ := exists_of_retreat h
    refine ⟨a, t ++ k.after.dropWhile s, ?_, fun c hc => ?_, hcont⟩
    · rw [← List.append_assoc, ← hat, List.takeWhile_append_dropWhile]
    · exact List.mem_takeWhile_imp (hat ▸ List.mem_append_left t hc)
  | seq p q ihp ihq =>
    obtain ⟨a, r, hk, ha, hq⟩ := ihp h
    obtain ⟨c, r', hr, hc, hcont⟩ := ihq hq
    rw [after_pass] at hr
    refine ⟨a ++ c, r', ?_, ⟨a, c, rfl, ha, hc⟩, by rwa [pass_pass] at hcont⟩
    rw [hk, hr, List.append_assoc]
  | alt p q ihp ihq =>
    cases hp : run p k cont with
    | some b' =>
      rw [run_alt_of_some hp] at h
      obtain ⟨w, r, hk, hw, hcont⟩ := ihp (hp.trans h)
      exact ⟨w, r, hk, .inl hw, hcont⟩
    | none =>
      rw [run_alt_of_none hp] at h
      obtain ⟨w, r, hk, hw, hcont⟩ := ihq h
      exact ⟨w, r, hk, .inr hw, hcont⟩
  | wordEdge | lineStart | textStart | textEnd =>
    rw [run] at h
    split at h
    · exact ⟨[], k.after, rfl, rfl, by rwa [pass_nil rfl]⟩
    · cases h

/-- A pattern that is free finds a match where there is a word behind which the rest succeeds. -/
theorem isSome_run_of_spells (hp : p.isFree = true) (hk : k.after = w ++ r) (hw : p.Spells w)
    (hcont : (cont (k.pass w r)).isSome) : (run p k cont).isSome := by
  induction p generalizing k cont w r with
  | empty =>
    obtain rfl : w = [] := hw
    have hr : k.after = r := hk
    rwa [pass_nil hr] at hcont
  | one s =>
    obtain ⟨c, rfl, hc⟩ := hw
    rw [run, hk, List.singleton_append]
    dsimp only
    rwa [if_pos hc]
  | many s =>
    have hrun : k.after.takeWhile s = w ++ r.takeWhile s := by
      rw [hk, List.takeWhile_append_of_pos hw]
    have hrest : k.after.dropWhile s = r.dropWhile s := by
      rw [hk, List.dropWhile_append_of_pos hw]
    rw [run_many, hrun, hrest]
    exact isSome_retreat (by rwa [List.takeWhile_append_dropWhile])
  | seq p q ihp ihq =>
    obtain ⟨a, c, rfl, ha, hc⟩ := hw
    rw [isFree, Bool.and_eq_true] at hp
    rw [List.append_assoc] at hk
    exact ihp hp.1 hk ha (ihq hp.2 rfl hc (by rwa [pass_pass]))
  | alt p q ihp ihq =>
    rw [isFree, Bool.and_eq_true] at hp
    cases hrun : run p k cont with
    | some b => rw [run_alt_of_some hrun]; rfl
    | none =>
      rw [run_alt_of_none hrun]
      rcases hw with hw | hw
      · have := ihp hp.1 hk hw hcont
        rw [hrun] at this
        cases this
      · exact ihq hp.2 hk hw hcont
  | wordEdge | lineStart | textStart | textEnd => cases hp

theorem exists_spells_of_end? (h : p.end? k = some e) :
    ∃ w, p.Spells w ∧ k.after = w ++ e.after ∧ e = k.pass w e.after := by
  obtain ⟨w, r, hk, hw, he⟩ := exists_spells_of_run h
  obtain rfl := Option.some.inj he
  exact ⟨w, hw, hk, rfl⟩

theorem isSome_end?_iff (hp : p.isFree = true) :
    (p.end? k).isSome ↔ ∃ w, p.Spells w ∧ w <+: k.after := by
  constructor
  · intro h
    obtain ⟨e, he⟩ := Option.isSome_iff_exists.1 h
    obtain ⟨w, hw, hk, -⟩ := exists_spells_of_end? he
    exact ⟨w, hw, e.after, hk.symm⟩
  · rintro ⟨w, hw, r, hk⟩
    exact isSome_run_of_spells hp hk.symm hw rfl

/-! ### Words of combined patterns -/

theorem spells_seqs_cons {ps : List Pattern} :
    (seqs (p :: ps)).Spells w ↔ ∃ a b, w = a ++ b ∧ p.Spells a ∧ (seqs ps).Spells b := by
  cases ps with
  | nil =>
    constructor
    · exact fun h => ⟨w, [], (List.append_nil w).symm, h, rfl⟩
    · rintro ⟨a, b, rfl, ha, rfl : b = []⟩
      rwa [List.append_nil]
  | cons q ps => exact Iff.rfl

theorem spells_seqs_append (ps qs : List Pattern) :
    (seqs (ps ++ qs)).Spells w ↔ ∃ a b, w = a ++ b ∧ (seqs ps).Spells a ∧ (seqs qs).Spells b := by
  induction ps generalizing w with
  | nil =>
    constructor
    · exact fun h => ⟨[], w, rfl, rfl, h⟩
    · rintro ⟨_, b, rfl, rfl, hb⟩
      exact hb
  | cons p ps ih =>
    simp only [List.cons_append, spells_seqs_cons, ih]
    constructor
    · rintro ⟨a, _, rfl, ha, b, c, rfl, hb, hc⟩
      exact ⟨a ++ b, c, (List.append_assoc ..).symm, ⟨a, b, rfl, ha, hb⟩, hc⟩
    · rintro ⟨_, c, rfl, ⟨a, b, rfl, ha, hb⟩, hc⟩
      exact ⟨a, b ++ c, List.append_assoc .., ha, b, c, rfl, hb, hc⟩

theorem spells_choice {ps : List Pattern} : (choice ps).Spells w ↔ ∃ p ∈ ps, p.Spells w := by
  induction ps with
  | nil => simp [choice, Spells]
  | cons p ps ih =>
    simp only [List.mem_cons, exists_eq_or_imp]
    rw [← ih]
    cases ps with
    | nil => simp [choice, Spells]
    | cons q ps => exact Iff.rfl

/-- One character of each set. -/
theorem spells_seqs_map_one {sets : List CharSet} :
    (seqs (sets.map one)).Spells w ↔ List.Forall₂ (fun s c => s c = true) sets w := by
  induction sets generalizing w with
  | nil => exact List.forall₂_nil_left_iff.symm
  | cons s sets ih =>
    rw [List.map_cons, spells_seqs_cons, List.forall₂_cons_left_iff]
    constructor
    · rintro ⟨_, b, rfl, ⟨c, rfl, hc⟩, hb⟩
      exact ⟨c, b, hc, ih.1 hb, rfl⟩
    · rintro ⟨c, b, hc, hb, rfl⟩
      exact ⟨[c], b, rfl, ⟨c, rfl, hc⟩, ih.2 hb⟩

theorem spells_lit {s : String} : (lit s).Spells w ↔ w = s.toList := by
  have h : lit s = seqs ((s.toList.map fun c d => d == c).map one) := by
    rw [List.map_map]
    rfl
  have heq : (fun c d : Char => (d == c) = true) = Eq := by
    funext c d
    exact propext (beq_iff_eq.trans eq_comm)
  rw [h, spells_seqs_map_one, List.forall₂_map_left_iff, heq, List.forall₂_eq_eq_eq]
  exact eq_comm

theorem spells_litAnyCase {s : String} :
    (litAnyCase s).Spells w ↔
      List.Forall₂ (fun c d => CharSet.anyCase (· == c) d = true) s.toList w := by
  have h : litAnyCase s = seqs ((s.toList.map fun c => CharSet.anyCase (· == c)).map one) := by
    rw [List.map_map]
    rfl
  rw [h, spells_seqs_map_one, List.forall₂_map_left_iff]

theorem exists_mem_of_forall₂ {α γ : Type} {R : α → γ → Prop} {l : List α} {l' : List γ} {a : α}
    (h : List.Forall₂ R l l') (ha : a ∈ l) : ∃ c ∈ l', R a c := by
  induction h with
  | nil => cases ha
  | cons hR _ ih =>
    rcases List.mem_cons.1 ha with rfl | ha
    · exact ⟨_, List.mem_cons_self, hR⟩
    · obtain ⟨c, hc, hRc⟩ := ih ha
      exact ⟨c, List.mem_cons_of_mem _ hc, hRc⟩

theorem spells_litsAnyCase {ss : List String} :
    (litsAnyCase ss).Spells w ↔
      ∃ s ∈ ss, List.Forall₂ (fun c d => CharSet.anyCase (· == c) d = true) s.toList w := by
  simp only [litsAnyCase, spells_choice, List.mem_map, exists_exists_and_eq_and, spells_litAnyCase]

/-- Words that start with one character of a set. -/
theorem spells_seq_one :
    (seq (one s) p).Spells w ↔ ∃ c v, w = c :: v ∧ s c = true ∧ p.Spells v := by
  constructor
  · rintro ⟨_, v, rfl, ⟨c, rfl, hc⟩, hv⟩
    exact ⟨c, v, rfl, hc, hv⟩
  · rintro ⟨c, v, rfl, hc, hv⟩
    exact ⟨[c], v, rfl, ⟨c, rfl, hc⟩, hv⟩

theorem spells_exactly {n : Nat} : (exactly n s).Spells w ↔ w.length = n ∧ ∀ c ∈ w, s c = true := by
  induction n generalizing w with
  | zero => exact ⟨fun h : w = [] => by simp [h], fun h => List.length_eq_zero_iff.1 h.1⟩
  | succ n ih =>
    rw [exactly, spells_seq_one]
    simp only [ih]
    cases w with
    | nil => simp
    | cons c v => simp [and_left_comm]

theorem spells_atLeast {n : Nat} : (atLeast n s).Spells w ↔ n ≤ w.length ∧ ∀ c ∈ w, s c = true := by
  induction n generalizing w with
  | zero => exact ⟨fun h => ⟨Nat.zero_le _, h⟩, fun h => h.2⟩
  | succ n ih =>
    rw [atLeast, spells_seq_one]
    simp only [ih]
    cases w with
    | nil => simp
    | cons c v => simp [and_left_comm]

/-! ### Free patterns -/

@[simp] theorem isFree_seqs (ps : List Pattern) : (seqs ps).isFree = ps.all isFree := by
  induction ps with
  | nil => rfl
  | cons p ps ih =>
    cases ps with
    | nil => exact (Bool.and_true _).symm
    | cons q ps => exact congrArg (p.isFree && ·) ih

@[simp] theorem isFree_choice (ps : List Pattern) : (choice ps).isFree = ps.all isFree := by
  induction ps with
  | nil => rfl
  | cons p ps ih =>
    cases ps with
    | nil => exact (Bool.and_true _).symm
    | cons q ps => exact congrArg (p.isFree && ·) ih

@[simp] theorem isFree_lit (s : String) : (lit s).isFree = true := by
  simp [lit, Pattern.char, isFree]

@[simp] theorem isFree_exactly (n : Nat) (s : CharSet) : (exactly n s).isFree = true := by
  induction n with
  | zero => rfl
  | succ n ih => rwa [exactly, isFree, isFree, Bool.true_and]

/-! ### The first match -/

theorem run_many_of_some (h : cont (k.pass (k.after.takeWhile s) (k.after.dropWhile s)) = some b) :
    run (many s) k cont = some b := by
  rw [run_many]
  generalize (k.after.takeWhile s).length = n
  cases n with
  | zero => exact h
  | succ n => rw [retreat, h]

theorem run_one_cons {c : Char} (hk : k.after = c :: r) (hc : s c = true) :
    run (one s) k cont = cont (k.pass [c] r) := by
  rw [run, hk]
  dsimp only
  rw [if_pos hc]
  rfl

theorem run_seqs_cons (p : Pattern) (ps : List Pattern) (k : Cursor) (cont : Cursor → Option β) :
    run (seqs (p :: ps)) k cont = run p k fun k' => run (seqs ps) k' cont := by
  cases ps <;> rfl

theorem run_litAnyCase {s : String} (hk : k.after = w ++ r)
    (hw : List.Forall₂ (fun c d => CharSet.anyCase (· == c) d = true) s.toList w) :
    run (litAnyCase s) k cont = cont (k.pass w r) := by
  rw [litAnyCase]
  generalize s.toList = l at hw ⊢
  induction hw generalizing k with
  | nil =>
    have hr : k.after = r := hk
    rw [pass_nil hr]
    rfl
  | cons hc _ ih => rw [List.map_cons, run_seqs_cons, run_one_cons hk hc, ih rfl, pass_pass]; rfl

/-- Where the patterns in front of it do not match, one of several patterns decides. -/
theorem run_choice_of_some {ps : List Pattern} (hps : ∀ q ∈ ps, run q k cont = none)
    (hp : run p k cont = some b) (qs : List Pattern) :
    run (choice (ps ++ p :: qs)) k cont = some b := by
  induction ps with
  | nil =>
    cases qs with
    | nil => exact hp
    | cons q qs => exact run_alt_of_some hp
  | cons q ps ih =>
    have hrest := ih fun q' hq' => hps q' (List.mem_cons_of_mem q hq')
    have hq := hps q List.mem_cons_self
    cases ps with
    | nil => exact (run_alt_of_none hq).trans hrest
    | cons q' ps => exact (run_alt_of_none hq).trans hrest

end Pattern

end ThreatModel
