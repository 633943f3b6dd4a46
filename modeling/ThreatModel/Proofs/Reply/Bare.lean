import ThreatModel.Proofs.Reply.Surroundings

/-!
# Replies that are nothing but an array

A bracket that an object follows goes before any other bracket, also if the other one opens the
array. So an array without text around it is read as it stands if it starts with an object, or if no
bracket in it is followed by an object, not even in a string (`threats_bare`). Otherwise an array
inside of it is read in its place, and what stands around that one is lost
(`elements_bare_behind_note`).

The proof compares first elements: what is read from a bracket that an object follows starts with an
object (`startsWithObject_of_fromBracket`), which the whole array does not.
-/

namespace ThreatModel.Reply

open Json

variable {g r text : List Char} {xs ys : List Json}

/-- Whether the first of some values is an object. -/
def StartsWithObject (xs : List Json) : Prop := ∃ x, xs.head? = some x ∧ x.isObject = true

/-! ### The first element -/

/-- The text of a scalar starts with no blank and with no brace. -/
theorem exists_head_of_scalarText {t : Json.Tree} {w : List Char} (h : ScalarText t w) :
    ∃ c s, w = c :: s ∧ Text.isBlank c = false ∧ (c = '\x7b' ↔ t.isObject = true) := by
  cases h with
  | nullWord => exact ⟨_, _, rfl, by decide⟩
  | trueWord => exact ⟨_, _, rfl, by decide⟩
  | falseWord => exact ⟨_, _, rfl, by decide⟩
  | string _ => exact ⟨_, _, rfl, by decide, by simp [Json.Tree.isObject]⟩
  | number h =>
    obtain ⟨c, s, rfl, hc⟩ := h.exists_cons
    have hrange : c.toNat = 45 ∨ (48 ≤ c.toNat ∧ c.toNat ≤ 57) := by
      rcases hc with rfl | hc
      · exact .inl rfl
      · exact .inr (Char.isDigit_iff_toNat.1 hc)
    have hblank : Text.isBlank c = false := by
      simp only [Text.isBlank, Bool.or_eq_false_iff, Bool.and_eq_false_iff, beq_eq_false_iff_ne,
        decide_eq_false_iff_not]
      omega
    have hne : c ≠ '\x7b' := by
      rintro rfl
      revert hrange
      decide
    exact ⟨c, s, rfl, hblank, by simp [hne, Json.Tree.isObject]⟩

/-- The text of a value starts with no blank, and with a brace exactly if it is an object. -/
theorem exists_head_of_valueText {depth : Nat} {t : Json.Tree} {w : List Char}
    (h : ValueText depth t w) :
    ∃ c s, w = c :: s ∧ Text.isBlank c = false ∧ (c = '\x7b' ↔ t.isObject = true) := by
  cases depth with
  | zero => exact exists_head_of_scalarText h
  | succ depth =>
    rcases h with h | ⟨ts, u, rfl, rfl, -⟩ | ⟨ms, u, rfl, rfl, -⟩
    · exact exists_head_of_scalarText h
    · exact ⟨_, _, rfl, by decide, by simp [Json.Tree.isObject]⟩
    · exact ⟨_, _, rfl, by decide, by simp [Json.Tree.isObject]⟩

theorem opensObject_append_cons {a : List Char} (ha : Blanks a) {c : Char}
    (hc : Text.isBlank c = false) (s : List Char) :
    opensObject (a ++ c :: s) = true ↔ c = '\x7b' := by
  rw [opensObject, Text.trimStart_append (isBlank_of_blanks ha),
    Text.trimStart_cons_of_not_blank hc]
  simp

/-- Blanks and the text of a first element tell whether that element is an object. -/
theorem opensObject_iff_of_values {depth : Nat} {t : Json.Tree} {ts : List Json.Tree}
    {a w : List Char} (hys : Values (t :: ts) ys) (ha : Blanks a) (hw : ValueText depth t w)
    (s : List Char) : opensObject (a ++ (w ++ s)) = true ↔ StartsWithObject ys := by
  obtain ⟨c, w', rfl, hc, hobj⟩ := exists_head_of_valueText hw
  cases hys with
  | cons hx hxs =>
    rw [List.cons_append, opensObject_append_cons ha hc, hobj, Tree.isObject_of_value? hx]
    simp [StartsWithObject]

/-- An object follows the bracket of an array exactly if the array starts with one. -/
theorem opensObject_iff_of_read (h : readChars? ('[' :: g) = some (.array ys)) :
    opensObject g = true ↔ StartsWithObject ys := by
  obtain ⟨ts, u, b, ys', hg, -, hu, he, hys⟩ := exists_body_of_readChars? h rfl
  obtain rfl : g = u ++ ']' :: b := (List.cons.inj hg).2
  cases he
  cases hu with
  | empty ha =>
    cases hys
    rw [opensObject_append_cons ha (by decide)]
    simp [StartsWithObject]
  | items hitems =>
    cases hitems with
    | one ha hw _ =>
      rw [List.append_assoc, List.append_assoc]
      exact opensObject_iff_of_values hys ha hw _
    | cons ha hw _ _ =>
      rw [List.append_assoc, List.append_assoc]
      exact opensObject_iff_of_values hys ha hw _

/-! ### Reading from a bracket that an object follows -/

/-- An object behind the blanks of a text is seen in every front that is more than blanks. -/
theorem opensObject_of_isPrefix (hg : g <+: r) (h : opensObject r = true) {c : Char} (hc : c ∈ g)
    (hblank : Text.isBlank c = false) : opensObject g = true := by
  obtain ⟨z, rfl⟩ := hg
  obtain ⟨w, hw, hw'⟩ := Text.exists_blanks_trimStart g
  cases hs : Text.trimStart g with
  | nil =>
    rw [hs, List.append_nil] at hw
    rw [hw' c (hw ▸ hc)] at hblank
    cases hblank
  | cons d s =>
    have hd : Text.isBlank d = false := Text.head_trimStart hs
    have hgz : g ++ z = w ++ d :: (s ++ z) := by
      conv_lhs => rw [hw, hs]
      simp
    rw [hgz, opensObject, Text.trimStart_append hw', Text.trimStart_cons_of_not_blank hd] at h
    rw [opensObject, hs]
    simpa using h

theorem opensObject_append (h : opensObject g = true) (z : List Char) :
    opensObject (g ++ z) = true := by
  obtain ⟨w, b, rfl, hw⟩ := opensObject_iff.1 h
  exact opensObject_iff.2 ⟨w, b ++ z, by simp, hw⟩

/-- What is found of a broken array holds the brace that ends an element. -/
theorem mem_of_throughElement? {p : Place} {n : Nat} {cs f : List Char}
    (h : throughElement? p n cs = some f) : '\x7d' ∈ f := by
  induction cs generalizing p n f with
  | nil => cases h
  | cons c cs ih =>
    unfold throughElement? at h
    split at h
    · obtain ⟨f', hf', rfl⟩ := Option.map_eq_some_iff.1 h
      exact List.mem_cons_of_mem c (ih hf')
    · split at h
      · dsimp only at h
        split at h
        next f' hf' =>
          split at hf'
          · cases hf'
          · cases h
            exact List.mem_cons_of_mem c (ih hf')
        next =>
          split at h
          next hc =>
            rw [Bool.and_eq_true, decide_eq_true_eq] at hc
            cases h
            simp [hc.1]
          next => cases h
      · obtain ⟨f', hf', rfl⟩ := Option.map_eq_some_iff.1 h
        exact List.mem_cons_of_mem c (ih hf')

/-- What is read up to the last closing bracket starts with an object. -/
theorem startsWithObject_of_read_throughLast (ho : opensObject r = true)
    (h : readChars? (throughLast ']' ('[' :: r)) = some (.array ys)) : StartsWithObject ys := by
  have hprefix := throughLast_isPrefix ']' ('[' :: r)
  cases hT : throughLast ']' ('[' :: r) with
  | nil =>
    rw [hT] at h
    cases h
  | cons c g =>
    rw [hT] at h hprefix
    obtain ⟨rfl, hg⟩ := List.cons_prefix_cons.1 hprefix
    -- Whatever can be read holds the bracket that closes the array.
    have hclose : ']' ∈ g := by
      obtain ⟨ts, u, b, _, hu, -⟩ := exists_body_of_readChars? h rfl
      rw [(List.cons.inj hu).2]
      simp
    exact (opensObject_iff_of_read h).1 (opensObject_of_isPrefix hg ho hclose (by decide))

/-- What is recovered starts with an object. -/
theorem startsWithObject_of_read_throughLastElement? {f : List Char} (ho : opensObject r = true)
    (hf : throughLastElement? ('[' :: r) = some f)
    (h : readChars? (f ++ [']']) = some (.array ys)) : StartsWithObject ys := by
  rw [throughLastElement?_bracket] at hf
  obtain ⟨g, hg, rfl⟩ := Option.map_eq_some_iff.1 hf
  have hopen : opensObject g = true :=
    opensObject_of_isPrefix (throughElement?_isPrefix hg) ho (mem_of_throughElement? hg) (by decide)
  exact (opensObject_iff_of_read h).1 (opensObject_append hopen [']'])

/-- **What is read from a bracket that an object follows starts with an object.** -/
theorem startsWithObject_of_fromBracket {recovered : Bool} (ho : opensObject r = true)
    (h : fromBracket ('[' :: r) = .ok (ys, recovered)) : StartsWithObject ys := by
  unfold fromBracket at h
  split at h
  next xs hread =>
    cases h
    exact startsWithObject_of_read_throughLast ho hread
  next =>
    split at h
    · cases h
    next f hf =>
      split at h
      next xs hread =>
        cases h
        exact startsWithObject_of_read_throughLastElement? ho hf hread
      · cases h
      · cases h

/-! ### Texts of nothing but an array -/

/-- A text that is read as an array is the text of an array with blanks around it. -/
theorem exists_arrayText_of_read (h : readChars? text = some (.array xs)) :
    ∃ a r b, text = a ++ ('[' :: r ++ b) ∧ Blanks a ∧ ArrayText ('[' :: r) xs ∧ Blanks b := by
  obtain ⟨t, ht, hx⟩ := Option.bind_eq_some_iff.1 h
  obtain ⟨a, w, b, rfl, ha, hw, hb⟩ := whole_eq_some_iff.1 ht
  rcases hw with hw | ⟨ts, u, rfl, rfl, hu⟩ | ⟨ms, u, rfl, -, -⟩
  · cases hw with
    | nullWord => cases hx
    | trueWord => cases hx
    | falseWord => cases hx
    | string _ =>
      obtain ⟨s, -, hs⟩ := Option.map_eq_some_iff.1 hx
      cases hs
    | number _ =>
      obtain ⟨n, -, hn⟩ := Option.map_eq_some_iff.1 hx
      cases hn
  · obtain ⟨xs', hxs, hx'⟩ := Option.map_eq_some_iff.1 hx
    cases hx'
    have hread := readChars?_array hu (Tree.values?_eq_some_iff.1 hxs)
    have hlast : ('[' :: (u ++ [']'])).getLast? = some ']' := by
      rw [← List.cons_append, List.getLast?_concat]
    exact ⟨a, u ++ [']'], b, rfl, ha, ⟨hread, rfl, hlast⟩, hb⟩
  · obtain ⟨ys, -, hys⟩ := Option.map_eq_some_iff.1 hx
    cases hys

/-- Blanks around a text make no opener. -/
theorem holdsOpener_trim : HoldsOpener (Text.trim text) ↔ HoldsOpener text := by
  constructor
  · intro h
    obtain ⟨w, hw, -⟩ := Text.exists_blanks_trimStart text
    obtain ⟨z, hz, -⟩ := Text.exists_blanks_trimEnd (Text.trimStart text)
    obtain ⟨a, v, b, he, hv⟩ := h
    have htext : text = w ++ (Text.trim text ++ z) := by
      conv_lhs => rw [hw, hz]
      rfl
    refine ⟨w ++ a, v, b ++ z, ?_, hv⟩
    rw [htext, he]
    simp
  · rintro ⟨a, w, b, rfl, hw⟩
    refine ⟨Text.trimStart a, w, Text.trimEnd b, ?_, hw⟩
    rw [Text.trim_append_cons rfl, Text.trimEnd_append_cons rfl]

/-- The first bracket of an array is taken if it starts with an object or nothing looks like one. -/
theorem splitAtArray?_self (h : opensObject r = true ∨ ¬ HoldsOpener ('[' :: r)) :
    splitAtArray? ('[' :: r) = some ([], '[' :: r) := by
  by_cases ho : opensObject r = true
  · exact splitAtArray?_bracket (P := []) (not_holdsOpener List.not_mem_nil) ho
  · have hno := h.resolve_left ho
    rw [splitAtArray?, splitAtObjects?_eq_none hno]
    simp [Text.splitAt?]

/-- A bracket in front is left for one that an object follows. -/
theorem exists_splitAtArray? (h : HoldsOpener g) :
    ∃ a s, splitAtArray? g = some (a, '[' :: s) ∧ opensObject s = true := by
  obtain ⟨⟨a, b⟩, hs⟩ := Option.isSome_iff_exists.1 (isSome_splitAtObjects?_iff.2 h)
  obtain ⟨-, s, rfl, ho⟩ := splitAtObjects?_eq_some hs
  exact ⟨a, s, by rw [splitAtArray?, hs], ho⟩

theorem elements_of_splitAtArray?_self {a b : List Char} (h : ArrayText ('[' :: r) xs)
    (ha : Blanks a) (hb : Blanks b) (hs : splitAtArray? ('[' :: r) = some ([], '[' :: r)) :
    elements (a ++ ('[' :: r ++ b)) = .ok (xs, false) := by
  have hfence : ¬ fence <:+: a := by
    intro hf
    have hmem : '`' ∈ a := hf.subset (by simp [fence])
    exact absurd (ha _ hmem) (by decide)
  have hstart : Text.trimStart a = [] := Text.trimStart_of_isBlank (isBlank_of_blanks ha)
  have hend : '[' :: Text.trimEnd (r ++ b) = '[' :: r := by
    rw [trimEnd_array h, Text.trimEnd_of_isBlank (isBlank_of_blanks hb), List.append_nil]
  have hunf : unfenced (a ++ '[' :: (r ++ b)) = '[' :: r := by
    rw [unfenced_of_bracket hfence, hstart, hend, List.nil_append]
    rw [Text.trim_append_cons rfl, hstart, hend, List.nil_append, hs]
  have hfrom := fromBracket_array (z := []) h List.not_mem_nil
  rw [List.append_nil] at hfrom
  rw [← hfrom]
  exact elements_of_splitAtArray? (a := []) (by rw [List.cons_append, hunf, hs])

theorem splitAt?_eq_none_of_not_isInfix (h : ¬ fence <:+: g) : Text.splitAt? fence g = none := by
  rw [Option.eq_none_iff_forall_ne_some]
  rintro ⟨a, b⟩ hs
  obtain ⟨rfl, hb⟩ := Text.splitAt?_eq_some hs
  exact h (hb.isInfix.trans (List.suffix_append a b).isInfix)

/-- Without fences the whole text is read. -/
theorem unfenced_of_not_isInfix (h : ¬ fence <:+: text) : unfenced text = Text.trim text := by
  have hsub : Text.trim text <:+: text := by
    obtain ⟨w, hw, -⟩ := Text.exists_blanks_trimStart text
    obtain ⟨z, hz, -⟩ := Text.exists_blanks_trimEnd (Text.trimStart text)
    refine ⟨w, z, ?_⟩
    conv_rhs => rw [hw, hz]
    simp [Text.trim]
  rw [unfenced, splitAt?_eq_none_of_not_isInfix fun hf => h (hf.trans hsub)]

/-- The drafts of values, and the number of values without one. -/
theorem ofElements_eq (xs : List Json) (recovered : Bool) :
    Outcome.ofElements xs recovered =
      ⟨(xs.filter isObject).map draftOfObject, recovered, xs.countP fun x => !x.isObject⟩ := by
  have hnone (x : Json) : (draftOf? x).isNone = !x.isObject := by
    cases x <;> rfl
  rw [Outcome.ofElements, filterMap_draftOf?]
  simp only [hnone]

/-- **An array without text around it is read as it stands, with a draft for each object, if it
starts with an object or holds no opener.** Without fences it is read so only then. -/
theorem threats_bare (h : readChars? text = some (.array xs)) :
    (StartsWithObject xs ∨ ¬ HoldsOpener text →
      elements text = .ok (xs, false) ∧
        threats text = .ok ⟨(xs.filter isObject).map draftOfObject, false,
          xs.countP fun x => !x.isObject⟩) ∧
      (¬ fence <:+: text → HoldsOpener text → ¬ StartsWithObject xs →
        ∀ recovered, elements text ≠ .ok (xs, recovered)) := by
  obtain ⟨a, r, b, rfl, ha, hA, hb⟩ := exists_arrayText_of_read h
  have htrim : Text.trim (a ++ ('[' :: r ++ b)) = '[' :: r := trim_array hA ha hb
  constructor
  · intro hcond
    have hs : splitAtArray? ('[' :: r) = some ([], '[' :: r) := by
      refine splitAtArray?_self (hcond.imp (opensObject_iff_of_read hA.read).2 fun hno => ?_)
      rwa [← htrim, holdsOpener_trim]
    have he := elements_of_splitAtArray?_self hA ha hb hs
    exact ⟨he, by rw [threats, he, ← ofElements_eq]; rfl⟩
  · intro hfence ho hno recovered he
    rw [← holdsOpener_trim, ← unfenced_of_not_isInfix hfence] at ho
    obtain ⟨q, s, hs, hopen⟩ := exists_splitAtArray? ho
    rw [elements_of_splitAtArray? hs] at he
    exact hno (startsWithObject_of_fromBracket hopen he)

/-- A fence in a string does no harm; an array of objects behind a null does. -/
theorem threats_bare_with_fence :
    threats "[\"```\",\x7b\"a\":true\x7d]".toList =
        .ok ⟨[draftOfObject (.object [("a", .bool true)])], false, 1⟩ ∧
      elements "[null,\x7b\"a\":[\x7b\x7d]\x7d]".toList ≠
        .ok ([.null, .object [("a", .array [.object []])]], false) := by
  have h₁ : readChars? "[\"```\",\x7b\"a\":true\x7d]".toList =
      some (.array [.string "```", .object [("a", .bool true)]]) := by cbv
  have h₂ : readChars? "[null,\x7b\"a\":[\x7b\x7d]\x7d]".toList =
      some (.array [.null, .object [("a", .array [.object []])]]) := by cbv
  have hopener : ¬ HoldsOpener "[\"```\",\x7b\"a\":true\x7d]".toList := by decide +kernel
  have hfence : ¬ fence <:+: "[null,\x7b\"a\":[\x7b\x7d]\x7d]".toList := by decide
  have hfirst : ¬ StartsWithObject [.null, .object [("a", .array [.object []])]] := by
    simp [StartsWithObject, isObject]
  exact ⟨((threats_bare h₁).1 (.inr hopener)).2,
    (threats_bare h₂).2 hfence (by decide) hfirst false⟩

/-- The threat behind a string is lost: the array of its mitigations is read in its place. -/
theorem elements_bare_behind_note :
    readChars? "[\"n\",\x7b\"title\":\"T\",\"mitigation\":[\x7b\"text\":\"x\"\x7d]\x7d]".toList =
        some (.array [.string "n", .object [("title", .string "T"),
          ("mitigation", .array [.object [("text", .string "x")]])]]) ∧
      elements "[\"n\",\x7b\"title\":\"T\",\"mitigation\":[\x7b\"text\":\"x\"\x7d]\x7d]".toList =
        .ok ([.object [("text", .string "x")]], true) :=
  ⟨by cbv, by cbv⟩

end ThreatModel.Reply
