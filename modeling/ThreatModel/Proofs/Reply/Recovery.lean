import ThreatModel.Proofs.Reply.Cut
import ThreatModel.Proofs.Reply.Opener

/-!
# Reading from the opening bracket

What `fromBracket` gives for a text that starts like an array.

* `fromBracket_array` : if the last closing bracket is the one of the array, it is read as it
  stands;
* `fromBracket_cut` : otherwise the complete elements up to the last object are read, wherever the
  text ends, and recovery gives these elements in either case (`recovered_cut`);
* `fromBracket_front` : for an array of objects that is cut these are all complete elements;
* `fromBracket_array_append` : for an array with a bracket behind it these are the elements up to
  the last object.
-/

namespace ThreatModel.Reply

open Json

/-! ### The opening bracket -/

section

variable {a T r : List Char} {xs : List Json} {x : Json}

theorem isBlank_of_blanks (h : Blanks a) : ∀ c ∈ a, Text.isBlank c = true := by
  intro c hc
  have hb := h c hc
  simp only [isBlank, Bool.or_eq_true, beq_iff_eq] at hb
  rcases hb with ((rfl | rfl) | rfl) | rfl <;> rfl

/-- The bracket of an array that starts with an object is found. -/
theorem opensObject_array (h : ArrayText ('[' :: r) xs) (hx : xs.head? = some x)
    (hobj : x.isObject = true) (z : List Char) : opensObject (r ++ z) = true := by
  obtain ⟨a, s, hA, ha⟩ := h.exists_brace hx hobj
  obtain rfl : r = a ++ '\x7b' :: s := (List.cons.inj hA).2
  exact opensObject_iff.2 ⟨a, s ++ z, by simp, isBlank_of_blanks ha⟩

/-- A front of an array of objects goes on with an object as soon as it has a brace. -/
theorem opensObject_front (h : ArrayText ('[' :: r) xs) (hobj : ∀ x ∈ xs, x.isObject = true)
    (hT : T <+: r) (hbrace : '\x7b' ∈ T) : opensObject T = true := by
  obtain ⟨y, rfl⟩ := hT
  have notMem {a : List Char} (ha : Blanks a) : '\x7b' ∉ a := fun hc => absurd (ha _ hc) (by decide)
  cases xs with
  | nil =>
    obtain ⟨a, hA, ha⟩ := h.exists_blanks
    have hmem : '\x7b' ∈ a ++ [']'] := by
      rw [← (List.cons.inj hA).2]
      exact List.mem_append_left y hbrace
    simp [notMem ha] at hmem
  | cons x xs =>
    obtain ⟨a, s, hA, ha⟩ := h.exists_brace rfl (hobj x List.mem_cons_self)
    rcases append_eq_append_cases (List.cons.inj hA).2 with ⟨t, rfl, ht, -⟩ | ⟨t, -, hTt, -, -⟩
    · cases t with
      | nil =>
        rw [List.append_nil] at hbrace
        exact absurd hbrace (notMem ha)
      | cons c t =>
        cases ht
        exact opensObject_iff.2 ⟨a, t, rfl, isBlank_of_blanks ha⟩
    · rw [← hTt] at ha
      exact absurd (List.mem_append_left t hbrace) (notMem ha)

/-- The bracket of an array of objects is found in each of its fronts. -/
theorem splitAtArray?_front (h : ArrayText ('[' :: r) xs) (hobj : ∀ x ∈ xs, x.isObject = true)
    (hT : T <+: r) {P : List Char} (hP : '[' ∉ P) :
    splitAtArray? (P ++ '[' :: Text.trimEnd T) = some (P, '[' :: Text.trimEnd T) := by
  by_cases hbrace : '\x7b' ∈ T
  · have hopen := opensObject_trimEnd (opensObject_front h hobj hT hbrace)
    exact splitAtArray?_bracket (not_holdsOpener hP) hopen
  · exact splitAtArray?_first hP fun hmem => hbrace ((Text.mem_trimEnd_iff rfl).1 hmem)

end

/-! ### The last object -/

/-- The values up to the last object among them. -/
def upToLastObject (xs : List Json) : List Json := xs.rdropWhile fun x => !x.isObject

theorem values_dropWhile {ts : List Json.Tree} {xs : List Json} (h : Values ts xs) :
    Values (ts.dropWhile fun t => !t.isObject) (xs.dropWhile fun x => !x.isObject) := by
  induction h with
  | nil => exact .nil
  | @cons t x ts xs hx hxs ih =>
    rw [List.dropWhile_cons, List.dropWhile_cons, Json.Tree.isObject_of_value? hx]
    split
    · exact ih
    · exact .cons hx hxs

theorem values_throughLastObject {ts : List Json.Tree} {xs : List Json} (h : Values ts xs) :
    Values (throughLastObject ts) (upToLastObject xs) :=
  List.forall₂_reverse_iff.2 (values_dropWhile (List.forall₂_reverse_iff.2 h))

theorem upToLastObject_of_forall {xs : List Json} (h : ∀ x ∈ xs, x.isObject = true) :
    upToLastObject xs = xs := by
  rw [upToLastObject, List.rdropWhile_eq_self_iff]
  intro hne
  simp [h _ (List.getLast_mem hne)]

/-- No object is behind the last one. -/
theorem filter_upToLastObject (xs : List Json) :
    (upToLastObject xs).filter isObject = xs.filter isObject := by
  have hrest : (xs.rtakeWhile fun x => !x.isObject).filter isObject = [] := by
    rw [List.filter_eq_nil_iff]
    intro x hx
    simpa using List.mem_rtakeWhile_imp hx
  calc (upToLastObject xs).filter isObject
      = (upToLastObject xs ++ xs.rtakeWhile fun x => !x.isObject).filter isObject := by
        rw [List.filter_append, hrest, List.append_nil]
    _ = xs.filter isObject := by rw [upToLastObject, List.rdropWhile_append_rtakeWhile]

/-- Behind the last object there are values of other kinds only. -/
theorem exists_upToLastObject_append (xs : List Json) :
    ∃ rest, xs = upToLastObject xs ++ rest ∧ ∀ x ∈ rest, x.isObject = false := by
  refine ⟨xs.rtakeWhile fun x => !x.isObject, ?_, fun x hx => ?_⟩
  · rw [upToLastObject, List.rdropWhile_append_rtakeWhile]
  · simpa using List.mem_rtakeWhile_imp hx

/-- The last value up to the last object is that object. -/
theorem isObject_of_getLast?_upToLastObject {xs : List Json} {x : Json}
    (h : (upToLastObject xs).getLast? = some x) : x.isObject = true := by
  have hne : upToLastObject xs ≠ [] := by
    intro hnil
    rw [hnil] at h
    cases h
  have hlast : ¬ (!((upToLastObject xs).getLast hne).isObject) = true :=
    List.rdropWhile_last_not (fun x : Json => !x.isObject) xs hne
  rw [List.getLast?_eq_some_getLast hne, Option.some.injEq] at h
  rw [← h]
  simpa using hlast

theorem upToLastObject_eq_nil_iff {xs : List Json} :
    upToLastObject xs = [] ↔ ∀ x ∈ xs, x.isObject = false := by
  simp [upToLastObject, List.rdropWhile_eq_nil_iff]

/-- The result of recovering some values. -/
def ofRecovered : List Json → Except RecoveryError (List Json × Bool)
  | [] => .error .noCompleteElement
  | x :: xs => .ok (x :: xs, true)

theorem ofRecovered_of_ne_nil {xs : List Json} (h : xs ≠ []) : ofRecovered xs = .ok (xs, true) := by
  cases xs with
  | nil => exact absurd rfl h
  | cons x xs => rfl

/-! ### Texts without a closing brace -/

variable {p : Place} {n : Nat} {T y z : List Char}

theorem throughElement?_of_notMem (h : '\x7d' ∉ z) : throughElement? p n z = none := by
  induction z generalizing p n with
  | nil => rfl
  | cons c z ih =>
    have hc : c ≠ '\x7d' := fun hc => h (hc ▸ List.mem_cons_self)
    have hz : '\x7d' ∉ z := fun hz => h (List.mem_cons_of_mem _ hz)
    rw [throughElement?, ih hz, ih hz, ih hz]
    simp [hc]

/-- A text without a closing brace does not change what is found in front of it. -/
theorem throughElement?_append_of_notMem (h : '\x7d' ∉ z) (T : List Char) :
    throughElement? p n (T ++ z) = throughElement? p n T := by
  induction T generalizing p n with
  | nil => exact throughElement?_of_notMem h
  | cons c T ih =>
    rw [List.cons_append, throughElement?, throughElement?]
    simp only [ih]

theorem throughElement?_trimEnd (T : List Char) :
    throughElement? p n (Text.trimEnd T) = throughElement? p n T := by
  obtain ⟨b, hb, hblank⟩ := Text.exists_blanks_trimEnd T
  have hb' : '\x7d' ∉ b := fun h => absurd (hblank _ h) (by decide)
  rw [← throughElement?_append_of_notMem hb' (Text.trimEnd T), ← hb]

/-! ### Recovery -/

variable {depth : Nat} {ts : List Json.Tree} {u : List Char} {xs : List Json}

theorem throughLastElement?_bracket (T : List Char) :
    throughLastElement? ('[' :: T) = (throughElement? .outside 1 T).map ('[' :: ·) := by
  rw [throughLastElement?, throughElement?]
  simp

theorem throughLastElement?_trimEnd (T : List Char) :
    throughLastElement? ('[' :: Text.trimEnd T) = throughLastElement? ('[' :: T) := by
  rw [throughLastElement?_bracket, throughLastElement?_bracket, throughElement?_trimEnd]

/-- `throughElement?_cut` for arrays that may be empty. -/
theorem throughElement?_body (hu : BodyText (ValueText depth) ts u) (hT : T ++ y = u ++ ']' :: z)
    {found : List Json.Tree}
    (hf : found = throughLastObject (ts.take (completeBefore depth y.length (u ++ ']' :: z)))) :
    (found = [] ∧ throughElement? .outside 1 T = none) ∨
      ∃ f, throughElement? .outside 1 T = some f ∧ ItemsText (ValueText depth) found f := by
  cases hu with
  | empty ha => exact .inl ⟨by simpa [throughLastObject] using hf, throughElement?_behind ha hT⟩
  | items h => exact throughElement?_cut h hT hf

/-- What the search finds is read as the complete elements up to the last object. -/
theorem throughLastElement?_cut (hu : BodyText (ValueText (maxDepth - 1)) ts u) (hxs : Values ts xs)
    (hT : T ++ y = u ++ ']' :: z) {ys : List Json}
    (hys : ys = upToLastObject
      (xs.take (completeBefore (maxDepth - 1) y.length (u ++ ']' :: z)))) :
    (ys = [] ∧ throughLastElement? ('[' :: T) = none) ∨
      ∃ front, throughLastElement? ('[' :: T) = some front ∧
        readChars? (front ++ [']']) = some (.array ys) ∧ ys ≠ [] := by
  have hvalues := values_throughLastObject (List.forall₂_take
    (completeBefore (maxDepth - 1) y.length (u ++ ']' :: z)) hxs)
  rw [← hys] at hvalues
  rw [throughLastElement?_bracket]
  rcases throughElement?_body hu hT rfl with ⟨hnil, hnone⟩ | ⟨f, hsome, hitems⟩
  · rw [hnil] at hvalues
    exact .inl ⟨List.forall₂_nil_left_iff.1 hvalues, by rw [hnone, Option.map_none]⟩
  · refine .inr ⟨'[' :: f, by rw [hsome, Option.map_some],
      readChars?_array (.items hitems) hvalues, ?_⟩
    rintro rfl
    exact hitems.ne_nil (List.forall₂_nil_right_iff.1 hvalues)

/-- **If the array cannot be read as it stands, its complete elements up to the last object are
read.** -/
theorem fromBracket_cut (hu : BodyText (ValueText (maxDepth - 1)) ts u) (hxs : Values ts xs)
    (hT : T ++ y = u ++ ']' :: z)
    (hread : readChars? (throughLast ']' ('[' :: Text.trimEnd T)) = none) :
    fromBracket ('[' :: Text.trimEnd T) = ofRecovered (upToLastObject
      (xs.take (completeBefore (maxDepth - 1) y.length (u ++ ']' :: z)))) := by
  rw [fromBracket, hread, throughLastElement?_trimEnd]
  rcases throughLastElement?_cut hu hxs hT rfl with ⟨hnil, hnone⟩ | ⟨front, hsome, hfront, hne⟩
  · rw [hnil, hnone]
    rfl
  · rw [hsome, ofRecovered_of_ne_nil hne]
    simp only [hfront]

/-- Recovery alone gives the same elements, whether or not the array can be read as it stands. -/
theorem recovered_cut (hu : BodyText (ValueText (maxDepth - 1)) ts u) (hxs : Values ts xs)
    (hT : T ++ y = u ++ ']' :: z) :
    recovered ('[' :: T) =
      upToLastObject (xs.take (completeBefore (maxDepth - 1) y.length (u ++ ']' :: z))) := by
  rcases throughLastElement?_cut hu hxs hT rfl with ⟨hnil, hnone⟩ | ⟨front, hsome, hfront, -⟩
  · rw [recovered, hnone, hnil]
  · rw [recovered, hsome]
    simp only [hfront]

/-! ### Texts of arrays -/

variable {A : List Char}

/-- What follows an array is trimmed up to its closing bracket. -/
theorem trimEnd_array {r : List Char} (h : ArrayText ('[' :: r) xs) (z : List Char) :
    '[' :: Text.trimEnd (r ++ z) = '[' :: r ++ Text.trimEnd z := by
  obtain ⟨ts, u, hA, -, -⟩ := h.exists_body
  obtain rfl : r = u ++ [']'] := (List.cons.inj hA).2
  rw [List.append_assoc, List.singleton_append, Text.trimEnd_append_cons rfl]
  simp

/-- **An array is read as it stands if no closing bracket comes later.** -/
theorem fromBracket_array (h : ArrayText A xs) (hz : ']' ∉ z) :
    fromBracket (A ++ z) = .ok (xs, false) := by
  obtain ⟨ts, u, rfl, -, -⟩ := h.exists_body
  have hlast : throughLast ']' ('[' :: (u ++ [']']) ++ z) = '[' :: (u ++ [']']) := by
    rw [List.cons_append, List.append_assoc, List.singleton_append, ← List.cons_append,
      throughLast_append hz, List.cons_append]
  rw [fromBracket, hlast, h.read]

/-- What is complete in a front of an array, counted from its other end. -/
theorem completeIn_eq (hT : T ++ y = A) :
    completeIn ('[' :: A) ('[' :: T) = completeBefore (maxDepth - 1) y.length A := by
  rw [completeIn, elementEnds, List.countP_map, completeBefore, List.tail_cons]
  refine List.countP_congr fun ρ hρ => ?_
  have hlen := length_of_mem_restsBehind hρ
  rw [← hT, List.length_append] at hlen
  simp only [Function.comp_apply, decide_eq_true_eq, ← hT, List.length_cons, List.length_append]
  omega

/-- **Of an array of objects that is cut, all complete elements are read.** -/
theorem fromBracket_front (h : ArrayText A xs) (hobj : ∀ x ∈ xs, x.isObject = true)
    (hT : '[' :: T ++ y = A) (hy : y ≠ []) :
    fromBracket ('[' :: Text.trimEnd T) = ofRecovered (xs.take (completeIn A ('[' :: T))) := by
  obtain ⟨ts, u, rfl, hu, hxs⟩ := h.exists_body
  have hT' : T ++ y = u ++ [']'] := (List.cons.inj hT).2
  have hread : readChars? (throughLast ']' ('[' :: Text.trimEnd T)) = none := by
    obtain ⟨b, hb, -⟩ := Text.exists_blanks_trimEnd T
    have hfront := throughLast_isPrefix ']' ('[' :: Text.trimEnd T)
    have hrest : '[' :: Text.trimEnd T ++ (b ++ y) = '[' :: (u ++ [']']) := by
      rw [← List.append_assoc, List.cons_append, ← hb, hT]
    refine h.readChars?_of_ne (hfront.trans ⟨b ++ y, hrest⟩) fun he => ?_
    -- What is left is shorter than the array.
    have h₁ := hfront.length_le
    have h₂ := List.length_pos_of_ne_nil hy
    rw [he, ← hrest, List.length_append, List.length_append] at h₁
    omega
  have hobj' : upToLastObject (xs.take (completeIn ('[' :: (u ++ [']'])) ('[' :: T))) =
      xs.take (completeIn ('[' :: (u ++ [']'])) ('[' :: T)) :=
    upToLastObject_of_forall fun x hx => hobj x (List.mem_of_mem_take hx)
  rw [fromBracket_cut hu hxs hT' hread, ← completeIn_eq hT', hobj']

/-- All values of an array are complete in front of what follows it. -/
theorem completeBefore_zero (hu : BodyText (ValueText depth) ts u) (z : List Char) :
    completeBefore depth 0 (u ++ ']' :: z) = ts.length := by
  rw [completeBefore, ← (forall₂_restsBehind hu z).length_eq, List.countP_eq_length]
  simp

/-- **If a closing bracket comes later, the elements up to the last object are read.** -/
theorem fromBracket_array_append (h : ArrayText A xs) (hz : ']' ∈ z) :
    fromBracket (A ++ Text.trimEnd z) = ofRecovered (upToLastObject xs) := by
  have hz' : ']' ∈ Text.trimEnd z := (Text.mem_trimEnd_iff rfl).2 hz
  have hread : readChars? (throughLast ']' (A ++ Text.trimEnd z)) = none := by
    obtain ⟨s, t, hst, ht⟩ := Text.exists_last_of_mem hz'
    rw [hst, ← List.append_assoc, throughLast_append ht, List.append_assoc]
    exact h.readChars?_append fun hb => absurd (hb ']' (by simp)) (by decide)
  obtain ⟨ts, u, rfl, hu, hxs⟩ := h.exists_body
  rw [← trimEnd_array h, List.append_assoc, List.singleton_append] at hread ⊢
  rw [fromBracket_cut hu hxs (List.append_nil _) hread, List.length_nil, completeBefore_zero hu,
    hxs.length_eq, List.take_length]

end ThreatModel.Reply
