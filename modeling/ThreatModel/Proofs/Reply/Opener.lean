import ThreatModel.Proofs.Text.Splitting
import ThreatModel.Reply.Threats

/-!
# Where the array of a reply starts

Reading a reply has two halves: `unfenced` and `splitAtArray?` find the opening bracket, and
`fromBracket` reads the array from there on (`elements_eq`). A bracket with an object behind it,
blanks aside, goes before any other, so text in front of the array does no harm as long as it holds
no such bracket (`splitAtArray?_bracket`).
-/

namespace ThreatModel.Reply

/-- A text with an opening bracket that is followed by blanks and an opening brace. -/
def HoldsOpener (cs : List Char) : Prop :=
  ∃ a w b, cs = a ++ '[' :: (w ++ '\x7b' :: b) ∧ ∀ c ∈ w, Text.isBlank c = true

/-- The elements of the array whose opening bracket starts a text. -/
def fromBracket (tail : List Char) : Except RecoveryError (List Json × Bool) :=
  match Json.readChars? (throughLast ']' tail) with
  | some (.array xs) => .ok (xs, false)
  | _ =>
    match throughLastElement? tail with
    | none => .error .noCompleteElement
    | some front =>
      match Json.readChars? (front ++ [']']) with
      | some (.array xs) => .ok (xs, true)
      | some _ => .error (.malformed "not an array")
      | none => .error (.malformed "not valid JSON")

theorem elements_eq (text : List Char) :
    elements text =
      match splitAtArray? (unfenced text) with
      | none => .error .noArray
      | some (_, tail) => fromBracket tail := rfl

theorem elements_of_splitAtArray? {text a tail : List Char}
    (h : splitAtArray? (unfenced text) = some (a, tail)) : elements text = fromBracket tail := by
  rw [elements_eq, h]

/-! ### The opening bracket -/

variable {P r : List Char}

theorem opensObject_iff :
    opensObject r = true ↔ ∃ w b, r = w ++ '\x7b' :: b ∧ ∀ c ∈ w, Text.isBlank c = true := by
  rw [opensObject, beq_iff_eq]
  constructor
  · intro h
    obtain ⟨w, hw, hblank⟩ := Text.exists_blanks_trimStart r
    obtain ⟨b, hb⟩ := List.head?_eq_some_iff.1 h
    exact ⟨w, b, by rw [← hb]; exact hw, hblank⟩
  · rintro ⟨w, b, rfl, hblank⟩
    rw [Text.trimStart_append hblank, Text.trimStart_cons_of_not_blank rfl, List.head?_cons]

theorem HoldsOpener.append_left (h : HoldsOpener r) (P : List Char) : HoldsOpener (P ++ r) := by
  obtain ⟨a, w, b, rfl, hw⟩ := h
  exact ⟨P ++ a, w, b, (List.append_assoc ..).symm, hw⟩

theorem not_holdsOpener_trimStart (h : ¬ HoldsOpener P) : ¬ HoldsOpener (Text.trimStart P) := by
  obtain ⟨w, hw, -⟩ := Text.exists_blanks_trimStart P
  intro ho
  rw [hw] at h
  exact h (ho.append_left w)

/-- A text without brackets holds no opener. -/
theorem not_holdsOpener (h : '[' ∉ P) : ¬ HoldsOpener P := by
  rintro ⟨a, w, b, rfl, -⟩
  exact h (by simp)

theorem opensObject_trimEnd (h : opensObject r = true) : opensObject (Text.trimEnd r) = true := by
  obtain ⟨w, b, rfl, hw⟩ := opensObject_iff.1 h
  rw [Text.trimEnd_append_cons rfl]
  exact opensObject_iff.2 ⟨w, Text.trimEnd b, rfl, hw⟩

/-- If a character follows that is neither blank nor a brace, an object starts in front of it. -/
theorem opensObject_of_append_cons {c : Char} (hc : Text.isBlank c = false) (hne : c ≠ '\x7b')
    (h : opensObject (P ++ c :: r) = true) : opensObject P = true := by
  rw [opensObject, Text.trimStart_append_cons hc] at h
  rw [opensObject]
  cases hP : Text.trimStart P with
  | nil =>
    rw [hP] at h
    simp [hne] at h
  | cons d s =>
    rw [hP] at h
    exact h

/-- An opener does not reach over a character that is neither blank nor a brace. -/
theorem not_holdsOpener_append_cons {c : Char} (hP : ¬ HoldsOpener P) (hc : Text.isBlank c = false)
    (hne : c ≠ '\x7b') (hr : '[' ∉ c :: r) : ¬ HoldsOpener (P ++ c :: r) := by
  rintro ⟨a, w, b, h, hw⟩
  rcases List.append_eq_append_iff.1 h with ⟨s, -, hs⟩ | ⟨s, rfl, hs⟩
  · refine hr ?_
    rw [hs]
    simp
  · cases s with
    | nil =>
      refine hr ?_
      rw [← List.nil_append (c :: r), ← hs]
      exact List.mem_cons_self
    | cons d s =>
      rw [List.cons_append, List.cons.injEq] at hs
      obtain ⟨rfl, hs⟩ := hs
      have ho : opensObject (s ++ c :: r) = true := opensObject_iff.2 ⟨w, b, hs.symm, hw⟩
      obtain ⟨w', b', rfl, hw'⟩ := opensObject_iff.1 (opensObject_of_append_cons hc hne ho)
      exact hP ⟨a, w', b', rfl, hw'⟩

/-- The search finds a bracket if there is an opener. -/
theorem isSome_splitAtObjects?_iff : (splitAtObjects? P).isSome = true ↔ HoldsOpener P := by
  constructor
  · intro h
    obtain ⟨⟨a, b⟩, hs⟩ := Option.isSome_iff_exists.1 h
    obtain ⟨hp, r, rfl, ho⟩ := splitAtObjects?_eq_some hs
    obtain ⟨w, b, rfl, hw⟩ := opensObject_iff.1 ho
    exact ⟨a, w, b, hp.symm, hw⟩
  · rintro ⟨a, w, b, rfl, hw⟩
    have ho : opensObject (w ++ '\x7b' :: b) = true := opensObject_iff.2 ⟨w, b, rfl, hw⟩
    induction a with
    | nil => simp [splitAtObjects?, ho]
    | cons c a ih =>
      rw [List.cons_append, splitAtObjects?]
      split_ifs
      · rfl
      · rw [Option.isSome_map]
        exact ih

instance : DecidablePred HoldsOpener := fun _ => decidable_of_iff _ isSome_splitAtObjects?_iff

theorem splitAtObjects?_eq_none (h : ¬ HoldsOpener P) : splitAtObjects? P = none := by
  rw [← isSome_splitAtObjects?_iff, Option.isSome_iff_ne_none, not_not] at h
  exact h

theorem splitAtObjects?_bracket (hP : ¬ HoldsOpener P) (hr : opensObject r = true) :
    splitAtObjects? (P ++ '[' :: r) = some (P, '[' :: r) := by
  induction P with
  | nil => simp [splitAtObjects?, hr]
  | cons c P ih =>
    have hc : ¬ (decide (c = '[') && opensObject (P ++ '[' :: r)) = true := by
      rw [Bool.and_eq_true, decide_eq_true_eq]
      rintro ⟨rfl, ho⟩
      obtain ⟨w, b, rfl, hw⟩ := opensObject_iff.1 (opensObject_of_append_cons rfl (by decide) ho)
      exact hP ⟨[], w, b, rfl, hw⟩
    have hP' : ¬ HoldsOpener P := fun h => hP (h.append_left [c])
    rw [List.cons_append, splitAtObjects?, if_neg hc, ih hP']
    rfl

/-- **Text in front of the array does not hide it, unless it holds an opener itself.** -/
theorem splitAtArray?_bracket (hP : ¬ HoldsOpener P) (hr : opensObject r = true) :
    splitAtArray? (P ++ '[' :: r) = some (P, '[' :: r) := by
  rw [splitAtArray?, splitAtObjects?_bracket hP hr]

/-- The text is split at a bracket. -/
theorem splitAtArray?_eq_some {cs a b : List Char} (h : splitAtArray? cs = some (a, b)) :
    a ++ b = cs ∧ ∃ r, b = '[' :: r := by
  rw [splitAtArray?] at h
  cases ho : splitAtObjects? cs with
  | some p =>
    rw [ho] at h
    cases h
    obtain ⟨happend, r, hr, -⟩ := splitAtObjects?_eq_some ho
    exact ⟨happend, r, hr⟩
  | none =>
    rw [ho] at h
    obtain ⟨happend, r, rfl⟩ := Text.splitAt?_eq_some h
    exact ⟨happend, r, rfl⟩

theorem splitAt?_of_notMem {c : Char} (h : c ∉ P) : Text.splitAt? [c] P = none := by
  induction P with
  | nil => rfl
  | cons d P ih =>
    have hd : ¬ c = d := fun hcd => h (hcd ▸ List.mem_cons_self)
    rw [Text.splitAt?, if_neg (by simpa using hd), ih fun hc => h (List.mem_cons_of_mem _ hc)]
    rfl

/-- Without a bracket there is no array. -/
theorem splitAtArray?_of_notMem (h : '[' ∉ P) : splitAtArray? P = none := by
  rw [splitAtArray?, splitAtObjects?_eq_none (not_holdsOpener h)]
  exact splitAt?_of_notMem h

theorem elements_of_notMem {text : List Char} (h : '[' ∉ unfenced text) :
    elements text = .error .noArray := by
  rw [elements_eq, splitAtArray?_of_notMem h]

/-- If no brace follows the first bracket, the array starts there. -/
theorem splitAtArray?_first (hP : '[' ∉ P) (hr : '\x7b' ∉ r) :
    splitAtArray? (P ++ '[' :: r) = some (P, '[' :: r) := by
  have ho : ¬ HoldsOpener (P ++ '[' :: r) := by
    rintro ⟨a, w, b, h, -⟩
    rcases List.append_eq_append_iff.1 h with ⟨s, -, hs⟩ | ⟨s, rfl, hs⟩
    · have hmem : '\x7b' ∈ '[' :: r := by
        rw [hs]
        simp
      exact hr (List.mem_of_ne_of_mem (by decide) hmem)
    · cases s with
      | nil =>
        have hmem : '\x7b' ∈ '[' :: r := by
          rw [← List.nil_append ('[' :: r), ← hs]
          simp
        exact hr (List.mem_of_ne_of_mem (by decide) hmem)
      | cons d s =>
        rw [List.cons_append, List.cons.injEq] at hs
        exact hP (by rw [← hs.1]; simp)
  rw [splitAtArray?, splitAtObjects?_eq_none ho]
  exact Text.splitAt?_singleton hP r

/-! ### The last closing bracket -/

variable {c : Char}

theorem throughLast_of_notMem (h : c ∉ r) : throughLast c r = r := by
  rw [throughLast, Text.splitLast?_of_notMem h]

theorem throughLast_append (h : c ∉ r) (P : List Char) :
    throughLast c (P ++ c :: r) = P ++ [c] := by
  rw [throughLast, Text.splitLast?_append h]

theorem throughLast_isPrefix (c : Char) (r : List Char) : throughLast c r <+: r := by
  by_cases h : c ∈ r
  · obtain ⟨s, t, rfl, ht⟩ := Text.exists_last_of_mem h
    rw [throughLast_append ht]
    exact ⟨t, by simp⟩
  · exact ⟨[], by rw [List.append_nil, throughLast_of_notMem h]⟩

end ThreatModel.Reply
