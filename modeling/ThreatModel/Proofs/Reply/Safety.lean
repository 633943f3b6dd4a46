import ThreatModel.Proofs.Reply.Offsets
import ThreatModel.Proofs.Reply.Recovery
import ThreatModel.Proofs.Scan.Lines

/-!
# Reading is safe on every text

Reading has a result for every text, whatever stands in it (`elements_safe`). What it can be is said
once, in `fromBracket_cases`: an array that is read as it stands, no complete element, elements that
are no JSON, or elements that are read from a part of the text with a bracket behind it. In the last
case the part ends with the closing brace that the search stopped at. A value that ends in a brace
is an object, since every other value is quiet and a closing brace of an element is not
(`getLast?_ne_brace_of_quiet`).
-/

namespace ThreatModel.Reply

open Json

variable {cs : List Char} {xs : List Json} {depth : Nat}

/-! ### The part that is read -/

theorem splitAtArray?_eq_none_iff : splitAtArray? cs = none ↔ '[' ∉ cs := by
  refine ⟨fun h hmem => ?_, splitAtArray?_of_notMem⟩
  obtain ⟨a, r, rfl, ha⟩ := List.eq_append_cons_of_mem hmem
  rw [splitAtArray?] at h
  split at h
  · cases h
  · rw [Text.splitAt?_singleton ha] at h
    cases h

/-- What is read is one part of the text. -/
theorem unfenced_isInfix (text : List Char) : unfenced text <:+: text := by
  have htrim (cs : List Char) : Text.trim cs <:+: cs := (Text.trims_trim cs).isInfix
  rw [unfenced]
  split
  next => exact htrim text
  next front block hfence =>
    have hblock : block <:+ Text.trim text := ⟨front, (Text.splitAt?_eq_some hfence).1⟩
    have hbody : afterInfo (block.drop fence.length) <:+: text :=
      ((afterInfo_isSuffix _).trans ((List.drop_suffix _ _).trans hblock)).isInfix.trans
        (htrim text)
    dsimp only
    split_ifs
    · exact htrim text
    · refine (htrim _).trans (List.IsInfix.trans ?_ hbody)
      cases hb : beforeFence? .outside (afterInfo (block.drop fence.length)) with
      | none => exact List.infix_refl _
      | some f =>
        obtain ⟨b, hb, -⟩ := beforeFence?_eq_some hb
        exact List.IsPrefix.isInfix ⟨fence ++ b, hb.symm⟩

/-! ### The last element -/

theorem getLast?_of_cons {c d : Char} (h : (c :: cs).getLast? = some d) (hne : c ≠ d) :
    cs.getLast? = some d := by
  rw [List.getLast?_cons, Option.some.injEq] at h
  cases hlast : cs.getLast? with
  | none => exact absurd (by rwa [hlast] at h) hne
  | some e => rwa [hlast, Option.getD_some, ← Option.some.injEq] at h

theorem getLast?_throughElement? {p : Place} {front : List Char}
    (h : throughElement? p depth cs = some front) : front.getLast? = some '\x7d' := by
  have hcons {c : Char} {f : List Char} (hf : f.getLast? = some '\x7d') :
      (c :: f).getLast? = some '\x7d' := by
    rw [List.getLast?_cons, hf, Option.getD_some]
  induction cs generalizing p depth front with
  | nil => cases h
  | cons c cs ih =>
    rw [throughElement?] at h
    split at h
    · obtain ⟨f, hf, rfl⟩ := Option.map_eq_some_iff.1 h
      exact hcons (ih hf)
    · split at h
      · dsimp only at h
        split at h
        next f hf =>
          cases h
          exact hcons (ih (Option.ite_none_left_eq_some.1 hf).2)
        next =>
          obtain ⟨hbrace, hfront⟩ := Option.ite_none_right_eq_some.1 h
          cases hfront
          rw [Bool.and_eq_true, decide_eq_true_eq] at hbrace
          rw [hbrace.1, List.getLast?_singleton]
      · obtain ⟨f, hf, rfl⟩ := Option.map_eq_some_iff.1 h
        exact hcons (ih hf)

/-- A text that leaves the scan between elements does not end in a brace. -/
theorem getLast?_ne_brace_of_quiet (h : quiet (.outside, 1) cs = some (.outside, 1)) :
    cs.getLast? ≠ some '\x7d' := by
  intro hlast
  obtain ⟨v, rfl⟩ := List.getLast?_eq_some_iff.1 hlast
  rw [quiet_append] at h
  obtain ⟨⟨p, n⟩, -, hstep⟩ := Option.bind_eq_some_iff.1 h
  rw [quiet_cons] at hstep
  cases p with
  | outside =>
    -- A brace is passed at depth three or more only.
    by_cases hn : n ≤ 2
    · have hc : n ≤ 1 ∨ n = 2 := by omega
      simp [quietStep, hc] at hstep
    · rw [quietStep_closeBrace (by omega), Option.bind_some, quiet_nil, Option.some.injEq,
        Prod.mk.injEq] at hstep
      omega
  | inside => simp [quietStep, Place.step] at hstep
  | escaped => simp [quietStep, Place.step] at hstep

theorem getLast?_ne_brace_of_blanks (h : Blanks cs) : cs.getLast? ≠ some '\x7d' :=
  getLast?_ne_brace_of_quiet (quiet_blanks h 1)

/-- The last of some items whose text ends in a brace is an object. -/
theorem isObject_getLast_of_items {ts : List Json.Tree} {u : List Char}
    (h : ItemsText (ValueText depth) ts u) (hxs : Values ts xs)
    (hu : u.getLast? = some '\x7d') : ∃ x, xs.getLast? = some x ∧ x.isObject = true := by
  induction h generalizing xs with
  | @one t a w b ha ht hb =>
    cases hxs with
    | @cons _ x _ _ hx hnil =>
      cases hnil
      refine ⟨x, List.getLast?_singleton, ?_⟩
      rw [← Json.Tree.isObject_of_value? hx]
      by_contra hobj
      have hq : quiet (.outside, 1) (a ++ (w ++ b)) = some (.outside, 1) := by
        rw [quiet_append, quiet_blanks ha, Option.bind_some, quiet_append,
          quiet_element ht (Bool.eq_false_iff.2 hobj), Option.bind_some, quiet_blanks hb]
      exact getLast?_ne_brace_of_quiet hq hu
  | @cons t ts a w b u ha ht hb hu' ih =>
    cases hxs with
    | @cons _ x _ xs hx hxs =>
      have hlast : (',' :: u).getLast? = some '\x7d' := by
        have hne : ∀ v : List Char, (v ++ ',' :: u).getLast? = (',' :: u).getLast? := fun v =>
          List.getLast?_append_of_ne_nil v (List.cons_ne_nil ',' u)
        rwa [← List.append_assoc, ← List.append_assoc, hne] at hu
      obtain ⟨y, hy, hobj⟩ := ih hxs (getLast?_of_cons hlast (by decide))
      exact ⟨y, by rw [List.getLast?_cons, hy, Option.getD_some], hobj⟩

/-! ### What reading gives -/

/-- **All that reading from a bracket can give.** -/
theorem fromBracket_cases (r : List Char) :
    (∃ xs, fromBracket ('[' :: r) = .ok (xs, false)) ∨
      fromBracket ('[' :: r) = .error .noCompleteElement ∨
      fromBracket ('[' :: r) = .error (.malformed "not valid JSON") ∨
      ∃ front xs, throughLastElement? ('[' :: r) = some front ∧ ArrayText (front ++ [']']) xs ∧
        fromBracket ('[' :: r) = .ok (xs, true) := by
  rw [fromBracket]
  split
  next xs _ => exact .inl ⟨xs, rfl⟩
  next =>
    refine .inr ?_
    cases hfront : throughLastElement? ('[' :: r) with
    | none => exact .inl rfl
    | some front =>
      refine .inr ?_
      have hopens : (front ++ [']']).head? = some '[' := by
        rw [throughLastElement?_bracket] at hfront
        obtain ⟨f, -, rfl⟩ := Option.map_eq_some_iff.1 hfront
        rfl
      cases hread : readChars? (front ++ [']']) with
      | none => exact .inl (by simp only [hread])
      | some x =>
        -- What starts with a bracket is read as an array.
        obtain ⟨-, -, -, xs, -, -, -, rfl, -⟩ := exists_body_of_readChars? hread hopens
        exact .inr ⟨front, xs, rfl, ⟨hread, hopens, List.getLast?_concat⟩, by simp only [hread]⟩

/-- The last value in front of a brace is an object. -/
theorem isObject_getLast_of_front {front : List Char} (h : ArrayText (front ++ [']']) xs)
    (hfront : front.getLast? = some '\x7d') : ∃ x, xs.getLast? = some x ∧ x.isObject = true := by
  obtain ⟨ts, u, hA, hu, hxs⟩ := h.exists_body
  rw [← List.cons_append, List.append_cancel_right_eq] at hA
  have hlast : u.getLast? = some '\x7d' := getLast?_of_cons (hA ▸ hfront) (by decide)
  cases hu with
  | empty ha => exact absurd hlast (getLast?_ne_brace_of_blanks ha)
  | items hitems => exact isObject_getLast_of_items hitems hxs hlast

/-- **Reading is safe on every text.** Every slice that it takes is between two boundaries of
characters of the text, so that it has a result. There is no array exactly if the text inside the
block holds no opening bracket. What is left of an array that was broken off is never something
other than an array. If its elements are read, there is at least one, the last one is an object, and
they are what one part of the text says with a bracket behind it. -/
theorem elements_safe (text : List Char) :
    elementsByOffset text = some (elements text) ∧
      (elements text = .error .noArray ↔ '[' ∉ unfenced text) ∧
      elements text ≠ .error (.malformed "not an array") ∧
      ∀ xs, elements text = .ok (xs, true) →
        xs ≠ [] ∧ (∃ x, xs.getLast? = some x ∧ x.isObject = true) ∧
          ∃ part, part <:+: text ∧ readChars? (part ++ [']']) = some (.array xs) := by
  refine ⟨elementsByOffset_eq text, ?_⟩
  rw [← splitAtArray?_eq_none_iff]
  cases hsplit : splitAtArray? (unfenced text) with
  | none => simp [elements_eq, hsplit]
  | some p =>
    obtain ⟨a, tail⟩ := p
    obtain ⟨happend, r, rfl⟩ := splitAtArray?_eq_some hsplit
    rw [elements_of_splitAtArray? hsplit]
    rcases fromBracket_cases r with ⟨ys, h⟩ | h | h | ⟨front, ys, hfront, hread, h⟩
    · simp [h]
    · simp [h]
    · simp [h]
    · refine ⟨by simp [h], by simp [h], fun xs hxs => ?_⟩
      obtain rfl : ys = xs := by simpa [h] using hxs
      obtain ⟨x, hx, hobj⟩ := isObject_getLast_of_front hread (getLast?_throughElement? hfront)
      have hne : ys ≠ [] := by
        rintro rfl
        cases hx
      have htail : '[' :: r <:+: text :=
        (happend ▸ List.suffix_append a ('[' :: r)).isInfix.trans (unfenced_isInfix text)
      refine ⟨hne, ⟨x, hx, hobj⟩, front, ?_, hread.read⟩
      exact (throughElement?_isPrefix hfront).isInfix.trans htail

end ThreatModel.Reply
