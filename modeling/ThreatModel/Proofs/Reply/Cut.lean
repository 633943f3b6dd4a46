import ThreatModel.Proofs.Reply.Quiet

/-!
# The last complete element

What `throughElement?` finds in the text of an array that is cut at any place, or that goes on
behind its end: the elements that are complete, up to the last one that is an object
(`throughElement?_cut`). Elements of all kinds may stand in the array. The number of complete
elements is counted by what the reader of JSON leaves behind each of them (`restsBehind`).
-/

namespace ThreatModel.Reply

open Json

/-- The trees up to the last object among them. -/
def throughLastObject (ts : List Json.Tree) : List Json.Tree := ts.rdropWhile fun t => !t.isObject

theorem throughLastObject_cons (t : Json.Tree) (ts : List Json.Tree) :
    throughLastObject (t :: ts) =
      if throughLastObject ts = [] ∧ t.isObject = false then [] else t :: throughLastObject ts := by
  simp only [throughLastObject, List.rdropWhile, List.reverse_cons, List.dropWhile_append]
  by_cases h : ts.reverse.dropWhile (fun t => !t.isObject) = []
  · cases ht : t.isObject <;> simp [h, ht]
  · simp [h]

variable {depth : Nat} {t : Json.Tree} {a b w : List Char}

/-! ### One element -/

/-- The search takes an object as a whole and goes on behind it. -/
theorem throughElement?_object (h : ValueText depth t w) (ht : t.isObject = true) (r : List Char) :
    throughElement? .outside 1 (w ++ r) = some (w ++ (throughElement? .outside 1 r).getD []) := by
  obtain ⟨v, rfl, hv⟩ := quiet_object h ht
  rw [List.append_assoc, throughElement?_append hv, List.singleton_append, throughElement?]
  cases throughElement? .outside 1 r <;> simp

/-- Behind blanks, an element counts if it is an object or an object comes later. -/
theorem throughElement?_element (ha : Blanks a) (h : ValueText depth t w) (r : List Char) :
    throughElement? .outside 1 (a ++ (w ++ r)) =
      if throughElement? .outside 1 r = none ∧ t.isObject = false then none
      else some (a ++ (w ++ (throughElement? .outside 1 r).getD [])) := by
  rw [throughElement?_append (quiet_blanks ha 1)]
  cases ht : t.isObject with
  | true => simp [throughElement?_object h ht]
  | false =>
    rw [throughElement?_append (quiet_element h ht)]
    cases throughElement? .outside 1 r <;> simp

/-- An element that is cut does not count. -/
theorem throughElement?_brokenOff (ha : Blanks a) (h : ValueText depth t w) {T s : List Char}
    (hT : T ++ s = a ++ w) (hs : s ≠ []) : throughElement? .outside 1 T = none := by
  cases ht : t.isObject with
  | true =>
    obtain ⟨v, rfl, hv⟩ := quiet_object h ht
    -- What is left of an object without its closing brace is quiet.
    have hq : quiet (.outside, 1) (a ++ v) = some (.outside, 2) := by
      rw [quiet_append, quiet_blanks ha, Option.bind_some, hv]
    have hT' : T ++ s = (a ++ v) ++ ['\x7d'] := by rw [hT, List.append_assoc]
    rcases List.append_eq_append_iff.1 hT' with ⟨r, hr, -⟩ | ⟨r, rfl, hr⟩
    · obtain ⟨s₁, h₁⟩ := quiet_front (hr ▸ hq)
      exact throughElement?_of_quiet h₁
    · have hr' : r = [] := by
        cases r with
        | nil => rfl
        | cons c r =>
          rw [List.cons_append, List.cons.injEq, List.nil_eq, List.append_eq_nil_iff] at hr
          exact absurd hr.2.2 hs
      rw [hr', List.append_nil]
      exact throughElement?_of_quiet hq
  | false =>
    have hq : quiet (.outside, 1) (T ++ s) = some (.outside, 1) := by
      rw [hT, quiet_append, quiet_blanks ha, Option.bind_some, quiet_element h ht]
    obtain ⟨s₁, h₁⟩ := quiet_front hq
    exact throughElement?_of_quiet h₁

/-- Nothing counts behind the last element. -/
theorem throughElement?_behind (hb : Blanks b) {T y z : List Char} (hT : T ++ y = b ++ ']' :: z) :
    throughElement? .outside 1 T = none := by
  rcases List.append_eq_append_iff.1 hT with ⟨s, rfl, -⟩ | ⟨s, rfl, hs⟩
  · obtain ⟨s₁, hq⟩ := quiet_front (quiet_blanks hb 1)
    exact throughElement?_of_quiet hq
  · rw [throughElement?_append (quiet_blanks hb 1)]
    cases s with
    | nil => rfl
    | cons c s =>
      cases hs
      simp [throughElement?]

/-! ### All elements -/

/-- How many values are complete in front of the last `n` characters of a text. -/
def completeBefore (depth n : Nat) (cs : List Char) : Nat :=
  (restsBehind depth cs).countP fun ρ => n ≤ ρ.length

/-- Nothing is complete in front of the whole text. -/
theorem completeBefore_of_length_le {n : Nat} {cs : List Char} (h : cs.length ≤ n) :
    completeBefore depth n cs = 0 := by
  rw [completeBefore, List.countP_eq_zero]
  intro ρ hρ
  have := length_of_mem_restsBehind hρ
  simp only [decide_eq_true_eq]
  omega

theorem completeBefore_comma (ha : Blanks a) (h : ValueText depth t w) (hb : Blanks b) (n : Nat)
    (r : List Char) :
    completeBefore depth n (a ++ (w ++ (b ++ ',' :: r))) =
      completeBefore depth n r + if n ≤ (b ++ ',' :: r).length then 1 else 0 := by
  rw [completeBefore, restsBehind_comma ha h hb, List.countP_cons]
  simp only [decide_eq_true_eq, completeBefore]

theorem completeBefore_bracket (ha : Blanks a) (h : ValueText depth t w) (hb : Blanks b) (n : Nat)
    (r : List Char) :
    completeBefore depth n (a ++ (w ++ (b ++ ']' :: r))) =
      if n ≤ (b ++ ']' :: r).length then 1 else 0 := by
  rw [completeBefore, restsBehind_bracket ha h hb, List.countP_singleton]
  simp only [decide_eq_true_eq]

/-- If nothing counts behind a complete element, it is the last candidate. -/
theorem throughElement?_last (ha : Blanks a) (h : ValueText depth t w) {r : List Char}
    (hr : throughElement? .outside 1 r = none) :
    (throughLastObject [t] = [] ∧ throughElement? .outside 1 (a ++ (w ++ r)) = none) ∨
      ∃ f, throughElement? .outside 1 (a ++ (w ++ r)) = some f ∧
        ItemsText (ValueText depth) (throughLastObject [t]) f := by
  rw [throughElement?_element ha h, hr, throughLastObject_cons]
  cases ht : t.isObject with
  | false => exact .inl ⟨by simp [throughLastObject], by simp⟩
  | true =>
    refine .inr ⟨a ++ (w ++ []), by simp, ?_⟩
    rw [if_neg (by simp)]
    exact .one ha h .nil

theorem quiet_comma (hb : Blanks b) :
    quiet (.outside, 1) (b ++ [',']) = some (.outside, 1) := by
  rw [quiet_append, quiet_blanks hb, Option.bind_some]
  rfl

/-- If something counts behind an element and a comma, the element comes with it. -/
theorem throughElement?_more (ha : Blanks a) (h : ValueText depth t w) (hb : Blanks b)
    {r f : List Char} {found : List Json.Tree} (hr : throughElement? .outside 1 r = some f)
    (hf : ItemsText (ValueText depth) found f) :
    ∃ g, throughElement? .outside 1 (a ++ (w ++ (b ++ ',' :: r))) = some g ∧
      ItemsText (ValueText depth) (t :: found) g := by
  have hr' : throughElement? .outside 1 (b ++ ',' :: r) = some (b ++ ',' :: f) := by
    rw [List.append_cons, throughElement?_append (quiet_comma hb), hr, Option.map_some,
      List.append_assoc]
    rfl
  refine ⟨a ++ (w ++ (b ++ ',' :: f)), ?_, .cons ha h hb hf⟩
  rw [throughElement?_element ha h, hr']
  simp

/-- A front of two texts ends in the second one, or before the end of the first one. -/
theorem append_eq_append_cases {T y u r : List Char} (h : T ++ y = u ++ r) :
    (∃ s, T = u ++ s ∧ s ++ y = r ∧ y.length ≤ r.length) ∨
      ∃ s, s ≠ [] ∧ T ++ s = u ∧ y = s ++ r ∧ r.length < y.length := by
  rcases List.append_eq_append_iff.1 h with ⟨s, rfl, rfl⟩ | ⟨s, rfl, rfl⟩
  · cases s with
    | nil => exact .inl ⟨[], by simp⟩
    | cons c s =>
      refine .inr ⟨c :: s, List.cons_ne_nil c s, rfl, rfl, ?_⟩
      rw [List.length_append, List.length_cons]
      omega
  · exact .inl ⟨s, by simp⟩

/-- **In front of any place of an array or behind it, the search finds its complete elements up to
the last object.** -/
theorem throughElement?_cut {ts : List Json.Tree} {u : List Char}
    (h : ItemsText (ValueText depth) ts u) {T y z : List Char} (hT : T ++ y = u ++ ']' :: z)
    {found : List Json.Tree}
    (hf : found = throughLastObject (ts.take (completeBefore depth y.length (u ++ ']' :: z)))) :
    (found = [] ∧ throughElement? .outside 1 T = none) ∨
      ∃ f, throughElement? .outside 1 T = some f ∧ ItemsText (ValueText depth) found f := by
  induction h generalizing T found with
  | @one t a w b ha ht hb =>
    rw [List.append_assoc, List.append_assoc] at hT hf
    rw [completeBefore_bracket ha ht hb] at hf
    rw [← List.append_assoc] at hT
    rcases append_eq_append_cases hT with ⟨s, rfl, hs, hlen⟩ | ⟨s, hs, hTs, -, hlen⟩
    · rw [if_pos hlen] at hf
      rw [hf, List.append_assoc]
      exact throughElement?_last ha ht (throughElement?_behind hb hs)
    · rw [if_neg (by omega)] at hf
      exact .inl ⟨hf, throughElement?_brokenOff ha ht hTs hs⟩
  | @cons t ts a w b u ha ht hb hu ih =>
    rw [List.append_assoc, List.append_assoc, List.append_assoc, List.cons_append] at hT hf
    rw [completeBefore_comma ha ht hb] at hf
    rw [← List.append_assoc] at hT
    rcases append_eq_append_cases hT with ⟨s, rfl, hs, hlen⟩ | ⟨s, hs, hTs, -, hlen⟩
    · rw [if_pos hlen, List.take_succ_cons] at hf
      rw [List.append_cons] at hs
      rw [List.append_assoc]
      rcases append_eq_append_cases hs with ⟨s, rfl, hs, -⟩ | ⟨s', hs', hss, -, hlen'⟩
      · -- The front reaches the elements that follow.
        rw [List.append_assoc, List.singleton_append]
        rcases ih hs rfl with ⟨hnil, hnone⟩ | ⟨f, hsome, hitems⟩
        · have hnone' : throughElement? .outside 1 (b ++ ',' :: s) = none := by
            rw [List.append_cons, throughElement?_append (quiet_comma hb), hnone, Option.map_none]
          rw [throughLastObject_cons, hnil] at hf
          rw [hf.trans (throughLastObject_cons t []).symm]
          exact throughElement?_last ha ht hnone'
        · rw [throughLastObject_cons, if_neg fun h => hitems.ne_nil h.1] at hf
          rw [hf]
          exact .inr (throughElement?_more ha ht hb hsome hitems)
      · -- The front ends in front of the comma.
        obtain ⟨s₁, h₁⟩ := quiet_front (hss ▸ quiet_comma hb)
        rw [completeBefore_of_length_le (by omega), List.take_zero] at hf
        rw [hf]
        exact throughElement?_last ha ht (throughElement?_of_quiet h₁)
    · have h₀ : completeBefore depth y.length (u ++ ']' :: z) = 0 := by
        refine completeBefore_of_length_le ?_
        simp only [List.length_append, List.length_cons] at hlen ⊢
        omega
      rw [if_neg (by omega), h₀] at hf
      exact .inl ⟨hf, throughElement?_brokenOff ha ht hTs hs⟩

end ThreatModel.Reply
