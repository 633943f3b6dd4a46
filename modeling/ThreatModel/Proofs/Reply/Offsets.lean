import ThreatModel.Proofs.Reply.Block
import ThreatModel.Proofs.Text.Offsets

/-!
# Reading by byte offsets

The searches of a reply hand over texts that are split already. The same reading can be done with
offsets in bytes: each search gives an offset, and what is read next is a slice of the text that was
searched, from or up to that offset. `elementsByOffset` is this reading. It has no result as soon as
an offset is behind the end of a text or inside of a character.

`elementsByOffset_eq` says that this never happens, and that the elements are those of `elements`.
For each search there is a lemma that says which front of the text its offset is the length of.
-/

namespace ThreatModel.Reply

open Text

/-! ### The array -/

/-- The offset of the first opening bracket that an object follows. -/
def openerOffset (cs : List Char) : Option (Option Nat) :=
  (offsetsOf '[' 0 cs).findM? fun n => (fromByte? (n + 1) cs).map opensObject

/-- The offset of the bracket that opens an array. -/
def arrayOffset (cs : List Char) : Option (Option Nat) :=
  (openerOffset cs).map fun found => found.or (offset? ['['] cs)

/-- The search goes through what stands behind a front of the text. -/
theorem findM?_offsetsOf (a cs : List Char) :
    ((offsetsOf '[' (utf8Length a) cs).findM? fun n =>
        (fromByte? (n + 1) (a ++ cs)).map opensObject) =
      some ((splitAtObjects? cs).map fun p => utf8Length (a ++ p.1)) := by
  induction cs generalizing a with
  | nil => rfl
  | cons c cs ih =>
    have ih' := ih (a ++ [c])
    rw [← List.append_cons, utf8Length_concat] at ih'
    have hmap : (splitAtObjects? cs).map (fun p => utf8Length (a ++ [c] ++ p.1)) =
        ((splitAtObjects? cs).map fun p => (c :: p.1, p.2)).map fun p => utf8Length (a ++ p.1) := by
      rw [Option.map_map]
      simp [Function.comp_def]
    rw [hmap] at ih'
    rw [offsetsOf, splitAtObjects?]
    by_cases hc : c = '['
    · subst hc
      rw [if_pos rfl, List.findM?, fromByte?_succ rfl]
      cases ho : opensObject cs with
      | true => simp [ho]
      | false => simpa [ho] using ih'
    · simpa [hc] using ih'

/-- The search for the opening bracket takes slices of the text only. -/
theorem arrayOffset_eq (cs : List Char) :
    arrayOffset cs = some ((splitAtArray? cs).map fun p => utf8Length p.1) := by
  have h := findM?_offsetsOf [] cs
  rw [arrayOffset, openerOffset]
  simp only [utf8Length_nil, List.nil_append] at h
  rw [h, Option.map_some, splitAtArray?]
  cases splitAtObjects? cs <;> rfl

/-! ### The block -/

/-- The offset of the first fence outside of literals in a text. `rest` is what stands from the
offset `n` on. -/
def closingOffset (text : List Char) (p : Place) (n : Nat) : (rest : List Char) →
    Option (Option Nat)
  | [] => some none
  | c :: r =>
    let later := closingOffset text (p.step c) (n + c.utf8Size) r
    if p = .outside && c = '`' then
      (fromByte? n text).bind fun here => if fence.isPrefixOf here then some (some n) else later
    else later

/-- The text behind an opening fence without its info word. -/
def afterInfoByOffset (cs : List Char) : Option (List Char) :=
  match offset? ['\n'] cs with
  | none => some cs
  | some n => do
    let line ← toByte? n cs
    let rest ← fromByte? (n + 1) cs
    return if isInfo line then rest else cs

/-- The text inside the block that an opening fence stands in front of. -/
def blockByOffset (cs : List Char) : Option (List Char) := do
  let body ← afterInfoByOffset cs
  match ← closingOffset body .outside 0 body with
  | some close => return trim (← toByte? close body)
  | none => return trim body

/-- The text inside the block that wraps the array, or the whole text. -/
def unfencedByOffset (text : List Char) : Option (List Char) :=
  let cs := trim text
  match offset? fence cs with
  | none => some cs
  | some n => do
    let start ← arrayOffset cs
    if start.any (· < n) then some cs else blockByOffset (← fromByte? (n + 3) cs)

/-- The search for a fence takes slices of the text only. -/
theorem closingOffset_eq (p : Place) (a cs : List Char) :
    closingOffset (a ++ cs) p (utf8Length a) cs =
      some ((beforeFence? p cs).map fun f => utf8Length (a ++ f)) := by
  induction cs generalizing a p with
  | nil => rfl
  | cons c cs ih =>
    have ih' := ih (p.step c) (a ++ [c])
    rw [← List.append_cons, utf8Length_concat] at ih'
    have hmap : (beforeFence? (p.step c) cs).map (fun f => utf8Length (a ++ [c] ++ f)) =
        ((beforeFence? (p.step c) cs).map (c :: ·)).map fun f => utf8Length (a ++ f) := by
      rw [Option.map_map]
      simp [Function.comp_def]
    rw [hmap] at ih'
    rw [closingOffset, beforeFence?, ih', fromByte?_utf8Length, Option.bind_some]
    by_cases hc : c = '`'
    · cases p <;> cases hf : fence.isPrefixOf (c :: cs) <;> simp [hc]
    · -- No fence starts with another character.
      have hf : ¬ fence.isPrefixOf (c :: cs) = true := by simp [fence, Ne.symm hc]
      simp [hc, hf]

theorem afterInfoByOffset_append {a : List Char} (ha : '\n' ∉ a) (r : List Char) :
    afterInfoByOffset (a ++ '\n' :: r) = some (if isInfo a then r else a ++ '\n' :: r) := by
  rw [afterInfoByOffset, offset?_singleton ha]
  simp only [toByte?_utf8Length, fromByte?_succ (c := '\n') rfl, Option.bind_eq_bind,
    Option.bind_some, Option.pure_def]

theorem afterInfoByOffset_eq (cs : List Char) : afterInfoByOffset cs = some (afterInfo cs) := by
  by_cases hmem : '\n' ∈ cs
  · obtain ⟨line, r, rfl, hline⟩ := List.eq_append_cons_of_mem hmem
    rw [afterInfo, splitFirst?_append hline]
    exact afterInfoByOffset_append hline r
  · rw [afterInfo_of_notMem hmem, afterInfoByOffset, offset?, splitAt?_of_notMem hmem]
    rfl

theorem blockByOffset_eq (cs : List Char) :
    blockByOffset cs =
      some (trim ((beforeFence? .outside (afterInfo cs)).getD (afterInfo cs))) := by
  have hclose := closingOffset_eq .outside [] (afterInfo cs)
  rw [List.nil_append, utf8Length_nil] at hclose
  rw [blockByOffset, afterInfoByOffset_eq]
  simp only [Option.bind_eq_bind, Option.bind_some, Option.pure_def, hclose]
  cases hb : beforeFence? .outside (afterInfo cs) with
  | none => rfl
  | some f =>
    obtain ⟨r, hr, -⟩ := beforeFence?_eq_some hb
    simp only [Option.map_some, List.nil_append, hr, toByte?_utf8Length, Option.getD_some,
      Option.bind_some]

/-- The search for the block takes slices of the text only. -/
theorem unfencedByOffset_eq (text : List Char) : unfencedByOffset text = some (unfenced text) := by
  rw [unfencedByOffset, offset?, arrayOffset_eq]
  cases hfence : splitAt? fence (trim text) with
  | none => simp [unfenced, hfence]
  | some p =>
    obtain ⟨front, block⟩ := p
    obtain ⟨happend, m, rfl⟩ := splitAt?_eq_some hfence
    have hslice : fromByte? (utf8Length front + 3) (trim text) = some m := by
      rw [← happend, ← List.append_assoc, ← fromByte?_utf8Length (front ++ fence) m,
        utf8Length_append]
      rfl
    simp only [Option.map_some, Option.bind_eq_bind, Option.bind_some, hslice, blockByOffset_eq]
    cases harray : splitAtArray? (trim text) with
    | none =>
      rw [unfenced_of_fence hfence (by simp [harray])]
      rfl
    | some q =>
      obtain ⟨a, b⟩ := q
      have hlt := utf8Length_lt_iff ((splitAtArray?_eq_some harray).1.trans happend.symm)
      by_cases h : a.length < front.length
      · simp [unfenced, hfence, harray, hlt, h]
      · have hle : ∀ a' b', splitAtArray? (trim text) = some (a', b') →
            front.length ≤ a'.length := by
          rintro a' b' he
          rw [harray] at he
          cases he
          exact Nat.not_lt.1 h
        rw [unfenced_of_fence hfence hle]
        simp [hlt, h]

/-! ### The elements -/

/-- The slice from the opening bracket at `start` to the last closing one, or to the end. -/
def arraySlice (start : Nat) (cs : List Char) : Option (List Char) :=
  match lastOffset? ']' cs with
  | some last =>
    if start < last then (toByte? (last + 1) cs).bind (fromByte? start) else fromByte? start cs
  | none => fromByte? start cs

/-- The offset behind the last closing brace of an element. `last` is the one that was passed last
in front of the offset `n`. -/
def elementEnd (p : Place) (depth : Nat) (last : Option Nat) (n : Nat) : List Char → Option Nat
  | [] => last
  | c :: r =>
    let next := n + c.utf8Size
    if p = .outside && (c = '[' || c = '\x7b') then elementEnd .outside (depth + 1) last next r
    else if p = .outside && (c = ']' || c = '\x7d') then
      let last := if c = '\x7d' && depth = 2 then some next else last
      if depth - 1 = 0 then last else elementEnd .outside (depth - 1) last next r
    else elementEnd (p.step c) depth last next r

/-- The complete elements of an array that was broken off. -/
def recoveredByOffset (tail : List Char) : Option (Except RecoveryError (List Json × Bool)) :=
  match elementEnd .outside 0 none 0 tail with
  | none => some (.error .noCompleteElement)
  | some cut => do
    let front ← toByte? cut tail
    match Json.readChars? (front ++ [']']) with
    | some (.array xs) => return .ok (xs, true)
    | some _ => return .error (.malformed "not an array")
    | none => return .error (.malformed "not valid JSON")

/-- The elements of the array in a reply, and whether it had been broken off. -/
def elementsByOffset (text : List Char) : Option (Except RecoveryError (List Json × Bool)) := do
  let body ← unfencedByOffset text
  match ← arrayOffset body with
  | none => return .error .noArray
  | some start =>
    match Json.readChars? (← arraySlice start body) with
    | some (.array xs) => return .ok (xs, false)
    | _ => recoveredByOffset (← fromByte? start body)

theorem arraySlice_eq (a r : List Char) :
    arraySlice (utf8Length a) (a ++ '[' :: r) = some (throughLast ']' ('[' :: r)) := by
  by_cases hr : ']' ∈ '[' :: r
  · obtain ⟨s, t, hst, ht⟩ := exists_last_of_mem hr
    have hs : s ≠ [] := by
      rintro rfl
      cases hst
    have hlt : utf8Length a < utf8Length (a ++ s) := by
      have happend : a ++ s = a ++ s ++ [] := (List.append_nil _).symm
      rw [utf8Length_lt_iff happend, List.length_append]
      exact Nat.lt_add_of_pos_right (List.length_pos_of_ne_nil hs)
    rw [hst, throughLast_append ht, ← List.append_assoc, arraySlice, lastOffset?,
      splitLast?_append ht]
    simp only [Option.map_some, hlt, if_true, toByte?_succ (c := ']') rfl, Option.bind_some]
    rw [List.append_assoc, fromByte?_utf8Length]
  · rw [throughLast_of_notMem hr, ← fromByte?_utf8Length a ('[' :: r), arraySlice, lastOffset?]
    by_cases ha : ']' ∈ a
    · obtain ⟨s, t, rfl, ht⟩ := exists_last_of_mem ha
      have ht' : ']' ∉ t ++ '[' :: r := by simp_all
      have hge : ¬ utf8Length (s ++ ']' :: t) < utf8Length s := by
        rw [utf8Length_append]
        omega
      have hsplit : s ++ ']' :: t ++ '[' :: r = s ++ ']' :: (t ++ '[' :: r) := by simp
      rw [hsplit, splitLast?_append ht']
      simp only [Option.map_some, hge, if_false]
    · rw [splitLast?_of_notMem (by simp_all)]
      rfl

/-- The search for the end of an element gives the last one that it passes. -/
theorem elementEnd_eq (p : Place) (depth : Nat) (last : Option Nat) (n : Nat) (cs : List Char) :
    elementEnd p depth last n cs =
      ((throughElement? p depth cs).map fun f => n + utf8Length f).or last := by
  induction cs generalizing p depth last n with
  | nil => rfl
  | cons c r ih =>
    have hmap (q : Place) (d : Nat) :
        (throughElement? q d r).map (fun f => n + c.utf8Size + utf8Length f) =
          ((throughElement? q d r).map (c :: ·)).map fun f => n + utf8Length f := by
      simp [Function.comp_def, Nat.add_assoc]
    rw [elementEnd, throughElement?]
    simp only [ih, hmap]
    by_cases hopen : (decide (p = .outside) && (decide (c = '[') || decide (c = '\x7b'))) = true
    · rw [if_pos hopen, if_pos hopen]
    rw [if_neg hopen, if_neg hopen]
    split
    next =>
      -- A brace that ends an element counts unless a later one does.
      by_cases hbrace : (decide (c = '\x7d') && decide (depth = 2)) = true <;>
        by_cases hdepth : depth - 1 = 0 <;>
          cases throughElement? .outside (depth - 1) r <;>
            simp [hbrace, hdepth]
    next => rfl

theorem recoveredByOffset_eq (tail : List Char) :
    recoveredByOffset tail = some (match throughLastElement? tail with
      | none => .error .noCompleteElement
      | some front =>
        match Json.readChars? (front ++ [']']) with
        | some (.array xs) => .ok (xs, true)
        | some _ => .error (.malformed "not an array")
        | none => .error (.malformed "not valid JSON")) := by
  rw [recoveredByOffset, elementEnd_eq, throughLastElement?, Option.or_none]
  cases h : throughElement? .outside 0 tail with
  | none => rfl
  | some front =>
    obtain ⟨r, rfl⟩ := throughElement?_isPrefix h
    simp only [Option.map_some, Nat.zero_add, toByte?_utf8Length, Option.bind_eq_bind,
      Option.bind_some]
    rcases Json.readChars? (front ++ [']']) with _ | (_ | _ | _ | _ | _ | _) <;> rfl

/-- **Reading takes slices of the text only.** Every offset that a search finds is a boundary of
characters in the text that is cut there, and reading by offsets gives the same elements. -/
theorem elementsByOffset_eq (text : List Char) : elementsByOffset text = some (elements text) := by
  rw [elementsByOffset, unfencedByOffset_eq, elements_eq]
  simp only [Option.bind_eq_bind, Option.bind_some, arrayOffset_eq]
  cases h : splitAtArray? (unfenced text) with
  | none => rfl
  | some p =>
    obtain ⟨a, tail⟩ := p
    obtain ⟨happend, r, rfl⟩ := splitAtArray?_eq_some h
    simp only [Option.map_some, ← happend, arraySlice_eq, fromByte?_utf8Length, Option.bind_some,
      recoveredByOffset_eq, fromBracket]
    rcases Json.readChars? (throughLast ']' ('[' :: r)) with _ | (_ | _ | _ | _ | _ | _) <;> rfl

/-- Characters of several bytes in front of the bracket and in a literal. -/
example : elementsByOffset "é ]→ [\x7b\"a\":\"é]\"\x7d,\x7b\"→".toList =
    some (.ok ([.object [("a", .string "é]")]], true)) := by
  cbv

end ThreatModel.Reply
