import ThreatModel.Proofs.Scan.Places

/-!
# Fewer findings are the first ones

The search in a file ends as soon as it has made as many findings as the limits allow. Whatever the
limit is, it has made the first findings of a search without one, so a larger limit only adds
findings at the end, and within one detector the lines never go back
(`gather_makes_first_findings`).

This holds for whatever finds the matches of a detector, as long as they come from left to right and
none begins inside another (`LeftToRight`). Patterns find them so (`leftToRight_occurrences`).
-/

namespace ThreatModel

open Text (Cursor)

/-! ### Matches from left to right -/

/-- Matches of a text from left to right, none of which begins in front of the end of another. -/
structure LeftToRight (text : List Char) (ms : List Match) : Prop where
  inText : ∀ m ∈ ms, m.first.text = text
  forward : ∀ m ∈ ms, m.first.offset ≤ m.last.offset
  apart : ms.Pairwise fun m m' => m.last.offset ≤ m'.first.offset

namespace Text.Cursor

variable {k k' : Cursor}

theorem front_isPrefix_text (k : Cursor) : k.front <+: k.text := ⟨k.after, rfl⟩

theorem utf8Length_front (k : Cursor) : utf8Length k.front = k.offset := by
  rw [front, utf8Length_reverse, k.offset_eq]

/-- Of two places in a text, the one with the smaller offset has the shorter text in front of it. -/
theorem front_isPrefix (htext : k.text = k'.text) (h : k.offset ≤ k'.offset) :
    k.front <+: k'.front := by
  rcases List.prefix_or_prefix_of_prefix k.front_isPrefix_text (htext ▸ k'.front_isPrefix_text) with
    hpre | ⟨t, ht⟩
  · exact hpre
  · -- What is in front of one place only takes no bytes.
    have hlen := congrArg utf8Length ht
    rw [utf8Length_append, utf8Length_front, utf8Length_front] at hlen
    have hnil : t = [] := by
      by_contra hne
      have := Pattern.utf8Length_pos hne
      omega
    rw [hnil, List.append_nil] at ht
    exact ht ▸ List.prefix_rfl

theorem line_mono (htext : k.text = k'.text) (h : k.offset ≤ k'.offset) : k.line ≤ k'.line := by
  rw [line_eq_count_front, line_eq_count_front]
  exact Nat.succ_le_succ ((front_isPrefix htext h).sublist.count_le '\n')

end Text.Cursor

/-- The findings for matches from left to right are in the order of their lines. -/
theorem LeftToRight.pairwise_line {text : List Char} {ms : List Match} (h : LeftToRight text ms)
    (d : Detector) (limits : Limits) (path : String) :
    (ms.map fun m => d.finding limits path m.first).Pairwise (·.line ≤ ·.line) := by
  refine List.pairwise_map.2 (h.apart.imp_of_mem fun hm hm' hle => ?_)
  exact Cursor.line_mono ((h.inText _ hm).trans (h.inText _ hm').symm) ((h.forward _ hm).trans hle)

namespace Pattern

variable {p : Pattern} {k : Cursor} {fresh : Bool} {resume : Nat} {m : Match}

theorem offset_le_of_end? {e : Cursor} (h : p.end? k = some e) : k.offset ≤ e.offset := by
  obtain ⟨w, -, -, he⟩ := exists_spells_of_end? h
  rw [he, Cursor.offset_pass]
  exact Nat.le_add_right _ _

/-- No match begins in front of the end of the one before. -/
theorem resume_le_of_mem_matchesFrom (h : m ∈ p.matchesFrom fresh resume k) :
    resume ≤ m.first.offset := by
  fun_induction matchesFrom p fresh resume k with
  | case1 fresh resume k found e hfound ih =>
    simp only [found] at hfound
    split_ifs at hfound with hlt
    have hle := offset_le_of_end? (Option.filter_eq_some_iff.1 hfound).1
    rcases List.mem_cons.1 h with rfl | h
    · exact Nat.le_of_not_lt hlt
    · split at h
      next => cases h
      next c r hk => exact (Nat.le_of_not_lt hlt).trans (hle.trans (ih c r hk h))
  | case2 => cases h
  | case3 fresh resume k found hfound c r hk ih => exact ih h

theorem pairwise_matchesFrom (p : Pattern) (fresh : Bool) (resume : Nat) (k : Cursor) :
    (p.matchesFrom fresh resume k).Pairwise fun m m' => m.last.offset ≤ m'.first.offset := by
  fun_induction matchesFrom p fresh resume k with
  | case1 fresh resume k found e hfound ih =>
    refine List.pairwise_cons.2 ⟨fun m' hm' => ?_, ?_⟩
    · split at hm'
      next => cases hm'
      next => exact resume_le_of_mem_matchesFrom hm'
    · split
      next => exact .nil
      next c r hk => exact ih c r hk
  | case2 => exact .nil
  | case3 fresh resume k found hfound c r hk ih => exact ih

/-- **Patterns find their matches from left to right.** -/
theorem leftToRight_occurrences (p : Pattern) (cs : List Char) :
    LeftToRight cs (p.occurrences cs) where
  inText _ hm := (of_mem_matchesFrom hm).2
  forward _ hm := offset_le_of_end? (of_mem_matchesFrom hm).1
  apart := pairwise_matchesFrom p true 0 (.start cs)

end Pattern

/-! ### Searches that end early -/

/-- The first so many elements of several lists, one list after another: of each list its first
elements, in an order that the list is in. -/
theorem exists_flatten_of_take {α β : Type} {R : β → β → Prop} {f : α → List β} {xs : List α}
    (h : ∀ x ∈ xs, (f x).Pairwise R) (n : ℕ) :
    ∃ parts, (xs.flatMap f).take n = parts.flatten ∧
      List.Forall₂ (fun x part => part <+: f x ∧ part.Pairwise R) xs parts := by
  induction xs generalizing n with
  | nil => exact ⟨[], by simp, .nil⟩
  | cons x xs ih =>
    obtain ⟨parts, htake, hparts⟩ :=
      ih (fun y hy => h y (List.mem_cons_of_mem x hy)) (n - (f x).length)
    have hpart : (f x).take n <+: f x := List.take_prefix n (f x)
    refine ⟨(f x).take n :: parts, ?_, .cons ⟨hpart, ?_⟩ hparts⟩
    · rw [List.flatMap_cons, List.take_append, htake, List.flatten_cons]
    · exact (h x List.mem_cons_self).sublist hpart.sublist

/-- **A search that ends early makes the first findings of a complete one.** Whatever finds the
matches of each detector from left to right: with a limit of `c` findings, the first `c` findings of
all detectors are made, in the order of the detectors and then of the matches. So a larger limit
only adds findings at the end, and the findings are a part for each detector, in which the lines
never go back. Searching a text is such a search, with the matches of the patterns. -/
theorem gather_makes_first_findings (find : Detector → List Match) (ds : List Detector)
    (limits : Limits) (path text : String) (h : ∀ d ∈ ds, LeftToRight text.toList (find d)) :
    let findings (d : Detector) := (find d).map fun m => d.finding limits path m.first
    let capped (c : ℕ) := gather { limits with maxFindingsPerFile := c } path find ds
    (∀ c, capped c = (ds.flatMap findings).take c) ∧
      (∀ c c', c ≤ c' → capped c <+: capped c') ∧
      (∀ c, ∃ parts, capped c = parts.flatten ∧
        List.Forall₂ (fun d part => part <+: findings d ∧ part.Pairwise (·.line ≤ ·.line))
          ds parts) ∧
      (∀ d : Detector, LeftToRight text.toList (d.pattern.occurrences text.toList)) ∧
      ∀ c, scanText ds { limits with maxFindingsPerFile := c } path text =
        (ds.flatMap fun d => d.findings limits path text.toList).take c := by
  intro findings capped
  have htake (c : ℕ) : capped c = (ds.flatMap findings).take c :=
    gather_eq_take { limits with maxFindingsPerFile := c } path find ds
  refine ⟨htake, fun c c' hle => ?_, fun c => ?_, fun d => d.pattern.leftToRight_occurrences _,
    fun c => scanText_eq_take ds { limits with maxFindingsPerFile := c } path text⟩
  · rw [htake, htake]
    exact List.take_prefix_take_left hle
  · obtain ⟨parts, hflatten, hparts⟩ :=
      exists_flatten_of_take (fun d hd => (h d hd).pairwise_line d limits path) c
    exact ⟨parts, (htake c).trans hflatten, hparts⟩

/-- Markup made by an evaluation, and a second evaluation: the first two findings are the
evaluations, whose detector comes first, and a larger limit adds the markup. -/
theorem gather_of_two_evaluations :
    let text := "el.innerHTML = eval(a); eval(b)"
    let capped (c : ℕ) := gather { maxFindingsPerFile := c } "a.js"
      (fun d => d.pattern.occurrences text.toList) [.codeEval, .xss]
    capped 2 <+: capped 3 ∧
      (capped 2).map (·.detector) = ["code_eval", "code_eval"] ∧
      (capped 3).map (·.detector) = ["code_eval", "code_eval", "xss"] := by
  intro text capped
  have hfirst := gather_makes_first_findings (fun d => d.pattern.occurrences text.toList)
    [.codeEval, .xss] {} "a.js" text fun d _ => d.pattern.leftToRight_occurrences _
  exact ⟨hfirst.2.1 2 3 (by decide), by decide +kernel, by decide +kernel⟩

end ThreatModel
