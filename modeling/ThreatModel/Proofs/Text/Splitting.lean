import Mathlib
import ThreatModel.Text.Blank
import ThreatModel.Text.Search

/-!
# Trimming and splitting

How trimming, taking words and searching act on texts that are put together from parts: trimming
stops at the first character from either end that is no blank (`trim_append_cons`), so that no blank
is left at an end (`trims_trim`), the words are those of the parts where blanks stand between them
(`words_append`, `words_intercalate`), and a search finds the first occurrence wherever it stands
(`splitAt?_append`, `splitAt?_append_of_some`, `splitFirst?_append`).
-/

namespace ThreatModel.Text

variable {a b r : List Char} {c : Char}

/-! ### Trimming -/

theorem trimStart_append (ha : ∀ c ∈ a, isBlank c = true) (r : List Char) :
    trimStart (a ++ r) = trimStart r := by
  induction a with
  | nil => rfl
  | cons c a ih =>
    rw [List.cons_append, trimStart, List.dropWhile_cons_of_pos (ha c List.mem_cons_self)]
    exact ih fun x hx => ha x (List.mem_cons_of_mem _ hx)

theorem trimStart_append_cons (hc : isBlank c = false) (a r : List Char) :
    trimStart (a ++ c :: r) = trimStart a ++ c :: r := by
  unfold trimStart
  rw [List.dropWhile_append]
  split
  next h => rw [List.isEmpty_iff.1 h, List.nil_append, List.dropWhile_cons_of_neg (by simp [hc])]
  next => rfl

theorem trimStart_append_of_mem (hmem : c ∈ a) (hc : isBlank c = false) (r : List Char) :
    trimStart (a ++ r) = trimStart a ++ r := by
  obtain ⟨s, t, rfl⟩ := List.append_of_mem hmem
  rw [List.append_assoc, List.cons_append, trimStart_append_cons hc, trimStart_append_cons hc,
    List.append_assoc, List.cons_append]

theorem exists_blanks_trimStart (cs : List Char) :
    ∃ a, cs = a ++ trimStart cs ∧ ∀ c ∈ a, isBlank c = true :=
  ⟨cs.takeWhile isBlank, List.takeWhile_append_dropWhile.symm,
    fun _ hc => List.mem_takeWhile_imp hc⟩

theorem exists_blanks_trimEnd (cs : List Char) :
    ∃ b, cs = trimEnd cs ++ b ∧ ∀ c ∈ b, isBlank c = true := by
  obtain ⟨a, h, ha⟩ := exists_blanks_trimStart cs.reverse
  refine ⟨a.reverse, ?_, by simpa using ha⟩
  rw [trimEnd, ← List.reverse_append, ← h, List.reverse_reverse]

/-- Trimming takes blanks only. -/
theorem mem_trimEnd_iff {cs : List Char} (hc : isBlank c = false) : c ∈ trimEnd cs ↔ c ∈ cs := by
  obtain ⟨b, hb, hblank⟩ := exists_blanks_trimEnd cs
  constructor
  · intro h
    rw [hb]
    exact List.mem_append_left b h
  · intro h
    rw [hb, List.mem_append] at h
    refine h.resolve_right fun hmem => ?_
    rw [hblank c hmem] at hc
    cases hc

theorem trimEnd_append_cons (hc : isBlank c = false) (a r : List Char) :
    trimEnd (a ++ c :: r) = a ++ c :: trimEnd r := by
  rw [trimEnd, List.reverse_append, List.reverse_cons, List.append_assoc, List.singleton_append,
    trimStart_append_cons hc]
  simp [trimEnd]

theorem trimEnd_trimEnd (cs : List Char) : trimEnd (trimEnd cs) = trimEnd cs := by
  simp only [trimEnd, trimStart, List.reverse_reverse, List.dropWhile_idempotent]

theorem trim_append_cons (hc : isBlank c = false) (a r : List Char) :
    trim (a ++ c :: r) = trimStart a ++ c :: trimEnd r := by
  rw [trim, trimStart_append_cons hc, trimEnd_append_cons hc]

/-- A text of blanks has nothing left. -/
theorem trimStart_of_isBlank (ha : ∀ c ∈ a, isBlank c = true) : trimStart a = [] := by
  have h := trimStart_append ha []
  rwa [List.append_nil] at h

theorem trimEnd_of_isBlank (ha : ∀ c ∈ a, isBlank c = true) : trimEnd a = [] := by
  rw [trimEnd, trimStart_of_isBlank fun c hc => ha c (List.mem_reverse.1 hc), List.reverse_nil]

/-- Blanks around a text without blanks are what trimming takes. -/
theorem trim_between {s : List Char} (ha : ∀ c ∈ a, isBlank c = true)
    (hb : ∀ c ∈ b, isBlank c = true) (hne : s ≠ []) (hs : ∀ c ∈ s, isBlank c = false) :
    trim (a ++ (s ++ b)) = s := by
  obtain ⟨w, d, rfl⟩ := (List.eq_nil_or_concat' s).resolve_left hne
  have hd : isBlank d = false := hs d (List.mem_append_right w List.mem_cons_self)
  have hw : trimStart (a ++ w) = w := by
    rw [trimStart_append ha]
    exact List.dropWhile_eq_self_iff.2 fun h =>
      Bool.eq_false_iff.1 (hs _ (List.mem_append_left _ (List.getElem_mem h)))
  rw [List.append_assoc, List.singleton_append, ← List.append_assoc, trim_append_cons hd, hw,
    trimEnd_of_isBlank hb]

theorem mem_of_mem_trim {cs : List Char} (h : c ∈ trim cs) : c ∈ cs := by
  rw [trim, trimEnd, List.mem_reverse] at h
  have h' := (List.dropWhile_sublist _).subset h
  exact (List.dropWhile_sublist _).subset (List.mem_reverse.1 h')

/-- `left` is a text without the blanks at both ends, all of them. -/
structure Trims (cs left : List Char) : Prop where
  blanks : ∃ a b, cs = a ++ left ++ b ∧ ∀ c ∈ a ++ b, isBlank c = true
  head : ∀ c ∈ left.head?, isBlank c = false
  last : ∀ c ∈ left.getLast?, isBlank c = false

theorem Trims.isInfix {cs left : List Char} (h : Trims cs left) : left <:+: cs := by
  obtain ⟨a, b, hcs, -⟩ := h.blanks
  exact ⟨a, b, hcs.symm⟩

theorem trims_trim (cs : List Char) : Trims cs (trim cs) := by
  obtain ⟨a, hfront, ha⟩ := exists_blanks_trimStart cs
  obtain ⟨b, hback, hb⟩ := exists_blanks_trimEnd (trimStart cs)
  refine ⟨⟨a, b, ?_, ?_⟩, ?_, ?_⟩
  · rw [trim, List.append_assoc, ← hback]
    exact hfront
  · intro c hc
    exact (List.mem_append.1 hc).elim (ha c) (hb c)
  · intro c hc
    obtain ⟨r, hr⟩ := List.head?_eq_some_iff.1 hc
    rw [trim] at hr
    rw [hr, List.cons_append] at hback
    exact head_trimStart hback
  · intro c hc
    rw [trim, trimEnd, List.getLast?_reverse] at hc
    obtain ⟨r, hr⟩ := List.head?_eq_some_iff.1 hc
    exact head_trimStart hr

/-! ### Words -/

theorem mem_of_mem_runs {cs w : List Char} (hw : w ∈ runs cs) (hc : c ∈ w) : c ∈ cs := by
  induction cs generalizing w with
  | nil => simp_all [runs]
  | cons d r ih =>
    rw [runs] at hw
    split_ifs at hw with hd
    · rcases List.mem_cons.1 hw with rfl | hw
      · cases hc
      · exact List.mem_cons_of_mem d (ih hw hc)
    · cases hr : runs r with
      | nil =>
        rw [hr, pushFront, List.mem_singleton] at hw
        subst hw
        exact List.mem_singleton.1 hc ▸ List.mem_cons_self
      | cons v vs =>
        rw [hr, pushFront] at hw
        rcases List.mem_cons.1 hw with rfl | hw
        · rcases List.mem_cons.1 hc with rfl | hc
          · exact List.mem_cons_self
          · exact List.mem_cons_of_mem d (ih (hr ▸ List.mem_cons_self) hc)
        · exact List.mem_cons_of_mem d (ih (hr ▸ List.mem_cons_of_mem v hw) hc)

theorem mem_of_mem_words {cs w : List Char} (hw : w ∈ words cs) (hc : c ∈ w) : c ∈ cs :=
  mem_of_mem_runs (List.mem_filter.1 hw).1 hc

theorem ne_nil_of_mem_words {cs w : List Char} (hw : w ∈ words cs) : w ≠ [] := by
  simpa using (List.mem_filter.1 hw).2

theorem runs_eq (cs : List Char) : runs cs = cs.splitOnP isBlank := by
  induction cs with
  | nil => rfl
  | cons c r ih =>
    rw [runs, List.splitOnP_cons_eq_if_modifyHead, ih]
    congr 1
    cases h : r.splitOnP isBlank with
    | nil => exact absurd h (List.splitOnP_ne_nil isBlank r)
    | cons => rfl

theorem words_append_cons (hc : isBlank c = true) (a r : List Char) :
    words (a ++ c :: r) = words a ++ words r := by
  rw [words, words, words, runs_eq, runs_eq, runs_eq, List.splitOnP_append_cons a r hc,
    List.filter_append]

theorem words_append_of_isBlank (ha : ∀ c ∈ a, isBlank c = true) (r : List Char) :
    words (a ++ r) = words r := by
  induction a with
  | nil => rfl
  | cons c a ih =>
    rw [List.cons_append]
    exact (words_append_cons (ha c List.mem_cons_self) [] (a ++ r)).trans
      (ih fun x hx => ha x (List.mem_cons_of_mem c hx))

/-- Blanks between two texts keep their words apart, however many there are. -/
theorem words_append (hne : b ≠ []) (hb : ∀ c ∈ b, isBlank c = true) (a r : List Char) :
    words (a ++ (b ++ r)) = words a ++ words r := by
  obtain ⟨c, b, rfl⟩ := List.exists_cons_of_ne_nil hne
  rw [List.cons_append, words_append_cons (hb c List.mem_cons_self),
    words_append_of_isBlank fun x hx => hb x (List.mem_cons_of_mem c hx)]

theorem words_of_not_isBlank (hne : a ≠ []) (ha : ∀ c ∈ a, isBlank c = false) : words a = [a] := by
  rw [words, runs_eq, List.splitOnP_eq_singleton ha]
  simp [hne]

/-- Words with spaces between them are read back. -/
theorem words_intercalate {ws : List (List Char)}
    (h : ∀ w ∈ ws, w ≠ [] ∧ ∀ c ∈ w, isBlank c = false) : words ([' '].intercalate ws) = ws := by
  induction ws with
  | nil => rfl
  | cons w ws ih =>
    obtain ⟨hne, hw⟩ := h w List.mem_cons_self
    cases ws with
    | nil => rw [List.intercalate_singleton, words_of_not_isBlank hne hw]
    | cons v vs =>
      rw [List.intercalate_cons_cons, List.append_assoc, List.singleton_append,
        words_append_cons rfl, words_of_not_isBlank hne hw,
        ih fun u hu => h u (List.mem_cons_of_mem w hu)]
      rfl

/-! ### Occurrences -/

/-- A search goes on over a text in which no occurrence starts. -/
theorem splitAt?_append {needle : List Char} {cs r : List Char}
    (h : ∀ s t, cs = s ++ t → t ≠ [] → ¬ needle <+: t ++ r) :
    splitAt? needle (cs ++ r) = (splitAt? needle r).map fun p => (cs ++ p.1, p.2) := by
  induction cs with
  | nil => simp
  | cons c cs ih =>
    have hc : ¬ needle.isPrefixOf (c :: (cs ++ r)) = true := by
      rw [ List.isPrefixOf_iff_prefix]
      exact h [] (c :: cs) rfl (by simp)
    rw [List.cons_append, splitAt?, if_neg hc,
      ih fun s t hst ht => h (c :: s) t (by rw [hst, List.cons_append]) ht, Option.map_map]
    rfl

/-- The first occurrence of a character. -/
theorem splitAt?_singleton (ha : c ∉ a) (r : List Char) :
    splitAt? [c] (a ++ c :: r) = some (a, c :: r) := by
  have hsearch : splitAt? [c] (c :: r) = some ([], c :: r) := by simp [splitAt?]
  rw [splitAt?_append, hsearch, Option.map_some, List.append_nil]
  rintro s t rfl ht hp
  obtain ⟨d, t, rfl⟩ := List.exists_cons_of_ne_nil ht
  obtain rfl : c = d := (List.cons_prefix_cons.1 hp).1
  exact ha (by simp)

/-- What follows an occurrence does not matter. -/
theorem splitAt?_append_of_some {needle cs a b : List Char} (h : splitAt? needle cs = some (a, b))
    (hn : needle ≠ []) (r : List Char) : splitAt? needle (cs ++ r) = some (a, b ++ r) := by
  induction cs generalizing a with
  | nil => simp [splitAt?, hn] at h
  | cons c cs ih =>
    rw [splitAt?] at h
    rw [List.cons_append, splitAt?]
    split at h
    next hc =>
      have hc' : needle <+: c :: cs := List.isPrefixOf_iff_prefix.1 hc
      have hp : needle.isPrefixOf (c :: (cs ++ r)) = true :=
        List.isPrefixOf_iff_prefix.2 (hc'.trans (List.prefix_append (c :: cs) r))
      cases h
      rw [if_pos hp]
      rfl
    next hc =>
      obtain ⟨⟨a', b'⟩, h', he⟩ := Option.map_eq_some_iff.1 h
      cases he
      -- The occurrence that was found is long enough to rule out one that reaches into `r`.
      have hlen : needle.length ≤ (c :: cs).length := by
        obtain ⟨hcs, hb⟩ := splitAt?_eq_some h'
        have := hb.length_le
        rw [← hcs, List.length_cons, List.length_append]
        omega
      have hc' : ¬ needle.isPrefixOf (c :: (cs ++ r)) = true := fun hp =>
        hc (List.isPrefixOf_iff_prefix.2 (List.prefix_of_prefix_length_le
          (List.isPrefixOf_iff_prefix.1 hp) (List.prefix_append (c :: cs) r) hlen))
      rw [if_neg hc', ih h']
      rfl

theorem splitFirst?_append {sep : Char} (ha : sep ∉ a) (r : List Char) :
    splitFirst? sep (a ++ sep :: r) = some (a, r) := by
  induction a with
  | nil => simp [splitFirst?]
  | cons c a ih =>
    have hc : c ≠ sep := fun h => ha (by simp [h])
    simp [splitFirst?, hc, ih fun h => ha (List.mem_cons_of_mem _ h)]

theorem splitFirst?_of_notMem {sep : Char} (ha : sep ∉ a) : splitFirst? sep a = none := by
  induction a with
  | nil => rfl
  | cons c a ih =>
    have hc : c ≠ sep := fun h => ha (by simp [h])
    simp [splitFirst?, hc, ih fun h => ha (List.mem_cons_of_mem _ h)]

theorem splitLast?_append {sep : Char} (hr : sep ∉ r) (a : List Char) :
    splitLast? sep (a ++ sep :: r) = some (a, r) := by
  have hr' : sep ∉ r.reverse := by simpa using hr
  simp [splitLast?, splitFirst?_append hr']

theorem splitLast?_of_notMem {sep : Char} (ha : sep ∉ a) : splitLast? sep a = none := by
  simp [splitLast?, splitFirst?_of_notMem (a := a.reverse) (by simpa using ha)]

/-- A text with a certain character, split at the last one. -/
theorem exists_last_of_mem {sep : Char} (h : sep ∈ a) : ∃ s t, a = s ++ sep :: t ∧ sep ∉ t := by
  obtain ⟨s, t, hst, hs⟩ := List.eq_append_cons_of_mem (List.mem_reverse.2 h)
  refine ⟨t.reverse, s.reverse, ?_, by simpa using hs⟩
  rw [← List.reverse_reverse a, hst]
  simp

end ThreatModel.Text
