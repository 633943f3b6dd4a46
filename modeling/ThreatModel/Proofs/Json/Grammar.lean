import ThreatModel.Proofs.Json.Scalar

/-!
# The grammar of JSON texts

`ValueText depth t w` says that the characters `w` spell the syntax tree `t`, with arrays and
objects nested at most `depth` levels deep. The reader of values accepts exactly these texts,
whatever follows them:

* `spells_value` : `value depth` reads what `ValueText depth` spells (`Spells` has both directions);
* `run_value_array_append` : an array is read back in front of every text;
* `whole_eq_some_iff` : a whole text is a value with blanks around it.

Items of arrays and members of objects are spelled alike, so that `ItemsText` and its two lemmas are
about any reader with a grammar.
-/

namespace ThreatModel.Json

open Text (Reader)

variable {α : Type} {P : α → List Char → Prop}

/-- Items with commas between them and blanks around each; at least one. -/
inductive ItemsText (P : α → List Char → Prop) : List α → List Char → Prop
  | one {x : α} {a w b : List Char} (ha : Blanks a) (hx : P x w) (hb : Blanks b) :
      ItemsText P [x] (a ++ (w ++ b))
  | cons {x : α} {xs : List α} {a w b u : List Char} (ha : Blanks a) (hx : P x w) (hb : Blanks b)
      (h : ItemsText P xs u) : ItemsText P (x :: xs) (a ++ (w ++ (b ++ ',' :: u)))

/-- What stands between a pair of brackets: blanks, or items. -/
inductive BodyText (P : α → List Char → Prop) : List α → List Char → Prop
  | empty {a : List Char} (ha : Blanks a) : BodyText P [] a
  | items {xs : List α} {u : List Char} (h : ItemsText P xs u) : BodyText P xs u

/-- A member of an object: its name as a literal, a colon and its value. -/
inductive MemberText (P : Tree → List Char → Prop) : Literal × Tree → List Char → Prop
  | intro {l : Literal} {t : Tree} {k a b w : List Char} (hk : LiteralText l k) (ha : Blanks a)
      (hb : Blanks b) (ht : P t w) : MemberText P (l, t) ('"' :: (k ++ (a ++ ':' :: (b ++ w))))

/-- The texts of a tree whose arrays and objects are nested at most `depth` levels deep. -/
def ValueText : (depth : Nat) → Tree → List Char → Prop
  | 0, t, w => ScalarText t w
  | depth + 1, t, w =>
    ScalarText t w ∨
      (∃ ts u, t = .array ts ∧ w = '[' :: (u ++ [']']) ∧ BodyText (ValueText depth) ts u) ∨
      ∃ ms u, t = .object ms ∧ w = '\x7b' :: (u ++ ['\x7d']) ∧
        BodyText (MemberText (ValueText depth)) ms u

/-- A reader takes exactly the texts of a grammar, whatever delimited text follows them. -/
structure Spells (item : Reader α) (P : α → List Char → Prop) : Prop where
  sound : ∀ {cs x r}, item.run cs = some (x, r) → ∃ w, cs = w ++ r ∧ P x w
  append : ∀ {x w r}, P x w → Delimited r → item.run (w ++ r) = some (x, r)
  /-- A text of the grammar starts neither with a blank nor with a closing bracket. -/
  head : ∀ {x w}, P x w → ∃ c r, w = c :: r ∧ isBlank c = false ∧ c ≠ ']' ∧ c ≠ '\x7d'

/-! ### Blanks -/

theorem Blanks.nil : Blanks [] := by simp [Blanks]

theorem skip_append {a : List Char} (ha : Blanks a) (r : List Char) : skip (a ++ r) = skip r := by
  induction a with
  | nil => rfl
  | cons c a ih =>
    have hc := ha c List.mem_cons_self
    rw [List.cons_append, skip, List.dropWhile_cons_of_pos hc]
    exact ih fun x hx => ha x (List.mem_cons_of_mem _ hx)

theorem skip_cons {c : Char} (hc : isBlank c = false) (r : List Char) : skip (c :: r) = c :: r := by
  simp [skip, hc]

theorem exists_blanks_skip (cs : List Char) : ∃ a, cs = a ++ skip cs ∧ Blanks a := by
  exact ⟨cs.takeWhile isBlank, (List.takeWhile_append_dropWhile).symm,
    fun c hc => List.mem_takeWhile_imp hc⟩

theorem skip_eq_nil_iff {cs : List Char} : skip cs = [] ↔ Blanks cs :=
  List.dropWhile_eq_nil_iff

theorem delimited_nil : Delimited [] := by simp [Delimited]

theorem delimited_cons {c : Char} {r : List Char}
    (h : isBlank c = true ∨ c = ',' ∨ c = ']' ∨ c = '\x7d') : Delimited (c :: r) := by
  simpa [Delimited] using h

theorem Blanks.delimited_append {a r : List Char} (ha : Blanks a) (hr : Delimited r) :
    Delimited (a ++ r) := by
  cases a with
  | nil => exact hr
  | cons c a => exact delimited_cons (.inl (ha c List.mem_cons_self))

/-! ### Items -/

theorem ItemsText.ne_nil {xs : List α} {u : List Char} (h : ItemsText P xs u) : xs ≠ [] := by
  cases h <;> simp

theorem run_itemsUntil (close : Char) (item : Reader α) (cs : List Char) :
    Reader.run (itemsUntil close item) cs =
      (item.run (skip cs)).bind fun p => match skip p.2 with
        | [] => none
        | c :: r =>
          if c = ',' then (Reader.run (itemsUntil close item) r).map fun q => (p.1 :: q.1, q.2)
          else if c = close then some ([p.1], r)
          else none := by
  unfold Reader.run
  rw [itemsUntil]
  split
  next h => simp [h]
  next x r hr h =>
    simp only [h, Option.map_some, Option.bind_some]
    split
    next h' => simp [h']
    next c r' h' =>
      simp only [h']
      split_ifs
      · cases itemsUntil close item r' <;> simp [Text.Rest.within]
      · simp
      · simp

theorem run_itemsUntil_sound {item : Reader α} (hs : Spells item P) {close : Char}
    {cs r : List Char} {xs : List α} (h : Reader.run (itemsUntil close item) cs = some (xs, r)) :
    ∃ u, cs = u ++ close :: r ∧ ItemsText P xs u := by
  induction hn : cs.length using Nat.strong_induction_on generalizing cs xs with
  | _ n ih =>
    rw [run_itemsUntil] at h
    obtain ⟨⟨x, r₁⟩, hx, h⟩ := Option.bind_eq_some_iff.1 h
    obtain ⟨a, hcs, ha⟩ := exists_blanks_skip cs
    obtain ⟨w, hw, hxw⟩ := hs.sound hx
    obtain ⟨b, hr₁, hb⟩ := exists_blanks_skip r₁
    have hlen : (skip r₁).length < cs.length := by
      have h₁ := length_skip_le cs
      have h₂ := length_skip_le r₁
      have h₃ := Reader.length_of_run hx
      omega
    simp only at h
    split at h
    next => cases h
    next c r₂ hr₂ =>
      rw [hr₂] at hr₁ hlen
      split_ifs at h with hc hcl
      · subst hc
        obtain ⟨⟨xs', r'⟩, hxs, he⟩ := Option.map_eq_some_iff.1 h
        simp only [Prod.mk.injEq] at he
        obtain ⟨rfl, rfl⟩ := he
        rw [List.length_cons] at hlen
        obtain ⟨u, hu, ht⟩ := ih r₂.length (by omega) hxs rfl
        refine ⟨a ++ (w ++ (b ++ ',' :: u)), ?_, .cons ha hxw hb ht⟩
        rw [hcs, hw, hr₁, hu]
        simp
      · simp only [Option.some.injEq, Prod.mk.injEq] at h
        obtain ⟨rfl, rfl⟩ := h
        refine ⟨a ++ (w ++ b), ?_, .one ha hxw hb⟩
        rw [hcs, hw, hr₁, hcl]
        simp

/-- Brackets that close an array or an object. -/
def IsClosing (c : Char) : Prop := c = ']' ∨ c = '\x7d'

theorem IsClosing.delimited {c : Char} (h : IsClosing c) (r : List Char) : Delimited (c :: r) :=
  delimited_cons (.inr (.inr h))

theorem IsClosing.not_isBlank {c : Char} (h : IsClosing c) : isBlank c = false := by
  rcases h with rfl | rfl <;> rfl

theorem IsClosing.ne_comma {c : Char} (h : IsClosing c) : c ≠ ',' := by
  rcases h with rfl | rfl <;> decide

/-- An item in front of blanks and something else is read, and the something else is what comes
next. -/
theorem Spells.run_skip {item : Reader α} (hs : Spells item P) {x : α} {a w r : List Char}
    (ha : Blanks a) (hx : P x w) (hr : Delimited r) :
    item.run (skip (a ++ (w ++ r))) = some (x, r) := by
  obtain ⟨c, w', rfl, hc, -⟩ := hs.head hx
  rw [skip_append ha, List.cons_append, skip_cons hc, ← List.cons_append]
  exact hs.append hx hr

theorem run_itemsUntil_append {item : Reader α} (hs : Spells item P) {close : Char}
    (hclose : IsClosing close) {xs : List α} {u : List Char} (h : ItemsText P xs u)
    (r : List Char) :
    Reader.run (itemsUntil close item) (u ++ close :: r) = some (xs, r) := by
  induction h with
  | @one x a w b ha hx hb =>
    rw [List.append_assoc, List.append_assoc, run_itemsUntil,
      hs.run_skip ha hx (hb.delimited_append (hclose.delimited r)), Option.bind_some]
    simp only [skip_append hb, skip_cons hclose.not_isBlank, hclose.ne_comma, ↓reduceIte]
  | @cons x xs a w b u ha hx hb _ ih =>
    rw [List.append_assoc, List.append_assoc, List.append_assoc, List.cons_append, run_itemsUntil,
      hs.run_skip ha hx (hb.delimited_append (delimited_cons (.inr (.inl rfl)))), Option.bind_some]
    simp only [skip_append hb, skip_cons (show isBlank ',' = false from rfl), ↓reduceIte, ih,
      Option.map_some]

theorem run_itemsOrNone (close : Char) (item : Reader α) (cs : List Char) :
    Reader.run (itemsOrNone close item) cs = match skip cs with
      | [] => none
      | c :: r => if c = close then some ([], r) else Reader.run (itemsUntil close item) cs := by
  unfold Reader.run itemsOrNone
  split
  next h => simp [h]
  next c r h =>
    simp only [h]
    split_ifs <;> simp

theorem run_itemsOrNone_sound {item : Reader α} (hs : Spells item P) {close : Char}
    {cs r : List Char} {xs : List α} (h : Reader.run (itemsOrNone close item) cs = some (xs, r)) :
    ∃ u, cs = u ++ close :: r ∧ BodyText P xs u := by
  rw [run_itemsOrNone] at h
  split at h
  next => cases h
  next c r' hr =>
    split_ifs at h with hc
    · simp only [Option.some.injEq, Prod.mk.injEq] at h
      obtain ⟨rfl, rfl⟩ := h
      obtain ⟨a, hcs, ha⟩ := exists_blanks_skip cs
      exact ⟨a, by rw [← hc, ← hr]; exact hcs, .empty ha⟩
    · obtain ⟨u, hu, ht⟩ := run_itemsUntil_sound hs h
      exact ⟨u, hu, .items ht⟩

/-- Items start with no closing bracket. -/
theorem Spells.head_items {item : Reader α} (hs : Spells item P) {xs : List α} {u : List Char}
    (h : ItemsText P xs u) (r : List Char) : ∃ c s, skip (u ++ r) = c :: s ∧ ¬ IsClosing c := by
  cases h with
  | one ha hx hb =>
    obtain ⟨c, w', rfl, hc, hne⟩ := hs.head hx
    rw [List.append_assoc, skip_append ha, List.cons_append, List.cons_append, skip_cons hc]
    exact ⟨c, _, rfl, not_or.2 hne⟩
  | cons ha hx hb _ =>
    obtain ⟨c, w', rfl, hc, hne⟩ := hs.head hx
    rw [List.append_assoc, skip_append ha, List.cons_append, List.cons_append, skip_cons hc]
    exact ⟨c, _, rfl, not_or.2 hne⟩

theorem run_itemsOrNone_append {item : Reader α} (hs : Spells item P) {close : Char}
    (hclose : IsClosing close) {xs : List α} {u : List Char} (h : BodyText P xs u)
    (r : List Char) :
    Reader.run (itemsOrNone close item) (u ++ close :: r) = some (xs, r) := by
  rw [run_itemsOrNone]
  cases h with
  | empty ha => simp only [skip_append ha, skip_cons hclose.not_isBlank, ↓reduceIte]
  | items h =>
    obtain ⟨c, s, hc, hne⟩ := hs.head_items h (close :: r)
    have hcc : c ≠ close := by
      rintro rfl
      exact hne hclose
    simp only [hc, hcc, ↓reduceIte]
    exact run_itemsUntil_append hs hclose h r

/-! ### Members -/

theorem run_memberOf (value : Reader Tree) (cs : List Char) :
    Reader.run (memberOf value) ('"' :: cs) =
      (Reader.run literal cs).bind fun p => match skip p.2 with
        | ':' :: r => (value.run (skip r)).map fun q => ((p.1, q.1), q.2)
        | _ => none := by
  simp only [Reader.run, memberOf]
  split
  next h => simp [h]
  next l r₁ h₁ h =>
    simp only [h, Option.map_some, Option.bind_some]
    split
    next r₂ h₂ =>
      simp only [h₂]
      cases value (skip r₂) <;> simp [Text.Rest.within]
    next hne =>
      split
      next r₂ h₂ => exact absurd h₂ (hne r₂)
      next => rfl

theorem spells_memberOf {value : Reader Tree} {P : Tree → List Char → Prop} (hs : Spells value P) :
    Spells (memberOf value) (MemberText P) where
  sound := by
    intro cs x r h
    cases cs with
    | nil => cases h
    | cons c cs =>
      by_cases hc : c = '"'
      · subst hc
        rw [run_memberOf] at h
        obtain ⟨⟨l, r₁⟩, hl, h⟩ := Option.bind_eq_some_iff.1 h
        obtain ⟨k, hk, hkt⟩ := run_literal_sound hl
        obtain ⟨a, hr₁, ha⟩ := exists_blanks_skip r₁
        simp only at h
        split at h
        next r₂ hr₂ =>
          obtain ⟨⟨t, r₃⟩, ht, he⟩ := Option.map_eq_some_iff.1 h
          cases he
          obtain ⟨b, hr₃, hb⟩ := exists_blanks_skip r₂
          obtain ⟨w, hw, hwt⟩ := hs.sound ht
          refine ⟨'"' :: (k ++ (a ++ ':' :: (b ++ w))), ?_, .intro hkt ha hb hwt⟩
          rw [hk, hr₁, hr₂, hr₃, hw]
          simp
        next => cases h
      · simp [Reader.run, memberOf, hc] at h
  append := by
    rintro x w r @⟨l, t, k, a, b, w, hk, ha, hb, ht⟩ hr
    rw [List.cons_append, List.append_assoc, List.append_assoc, List.cons_append,
      List.append_assoc, run_memberOf, run_literal_append hk, Option.bind_some]
    simp only [skip_append ha, skip_cons (show isBlank ':' = false from rfl), hs.run_skip hb ht hr,
      Option.map_some]
  head := by
    rintro x w ⟨hk, ha, hb, ht⟩
    exact ⟨'"', _, rfl, rfl, by decide, by decide⟩

/-! ### Values -/

theorem not_isBlank_of_isDigit {c : Char} (h : c.isDigit = true) : isBlank c = false := by
  rw [← Bool.not_eq_true]
  intro hb
  simp only [isBlank, Bool.or_eq_true, beq_iff_eq] at hb
  rcases hb with ((rfl | rfl) | rfl) | rfl <;> revert h <;> decide

/-- A scalar starts neither with a blank nor with a bracket. -/
theorem ScalarText.head {t : Tree} {w : List Char} (h : ScalarText t w) :
    ∃ c r, w = c :: r ∧ isBlank c = false ∧ c ≠ ']' ∧ c ≠ '\x7d' ∧ c ≠ '[' ∧ c ≠ '\x7b' := by
  cases h with
  | nullWord => exact ⟨_, _, rfl, by decide⟩
  | trueWord => exact ⟨_, _, rfl, by decide⟩
  | falseWord => exact ⟨_, _, rfl, by decide⟩
  | string _ => exact ⟨_, _, rfl, by decide⟩
  | number h =>
    obtain ⟨c, r, rfl, hc⟩ := h.exists_cons
    refine ⟨c, r, rfl, ?_, ?_, ?_, ?_, ?_⟩
    · rcases hc with rfl | hc
      · rfl
      · exact not_isBlank_of_isDigit hc
    all_goals rintro rfl; revert hc; decide

theorem spells_scalar : Spells scalar ScalarText where
  sound := run_scalar_sound
  append := run_scalar_append
  head h := by
    obtain ⟨c, r, rfl, hb, h₁, h₂, -⟩ := h.head
    exact ⟨c, r, rfl, hb, h₁, h₂⟩

theorem run_value_array (depth : Nat) (r : List Char) :
    Reader.run (value (depth + 1)) ('[' :: r) =
      (Reader.run (itemsOrNone ']' (value depth)) r).map fun p => (.array p.1, p.2) := by
  simp [Reader.run, value, Function.comp_def]

theorem run_value_object (depth : Nat) (r : List Char) :
    Reader.run (value (depth + 1)) ('\x7b' :: r) =
      (Reader.run (itemsOrNone '\x7d' (memberOf (value depth))) r).map fun p =>
        (.object p.1, p.2) := by
  simp [Reader.run, value, Function.comp_def]

theorem run_value_scalar {depth : Nat} {c : Char} {r : List Char} (h₁ : c ≠ '[')
    (h₂ : c ≠ '\x7b') : Reader.run (value depth) (c :: r) = Reader.run scalar (c :: r) := by
  cases depth with
  | zero => rfl
  | succ depth => simp [Reader.run, value, h₁, h₂]

/-- **The reader of values reads exactly what the grammar spells.** -/
theorem spells_value (depth : Nat) : Spells (value depth) (ValueText depth) := by
  induction depth with
  | zero => exact spells_scalar
  | succ depth ih =>
    constructor
    case sound =>
      intro cs t r h
      cases cs with
      | nil => cases h
      | cons c cs =>
        by_cases h₁ : c = '['
        · subst h₁
          rw [run_value_array] at h
          obtain ⟨⟨ts, r'⟩, hts, he⟩ := Option.map_eq_some_iff.1 h
          cases he
          obtain ⟨u, rfl, hu⟩ := run_itemsOrNone_sound ih hts
          exact ⟨'[' :: (u ++ [']']), by simp, .inr (.inl ⟨ts, u, rfl, rfl, hu⟩)⟩
        by_cases h₂ : c = '\x7b'
        · subst h₂
          rw [run_value_object] at h
          obtain ⟨⟨ms, r'⟩, hms, he⟩ := Option.map_eq_some_iff.1 h
          cases he
          obtain ⟨u, rfl, hu⟩ := run_itemsOrNone_sound (spells_memberOf ih) hms
          exact ⟨'\x7b' :: (u ++ ['\x7d']), by simp, .inr (.inr ⟨ms, u, rfl, rfl, hu⟩)⟩
        rw [run_value_scalar h₁ h₂] at h
        obtain ⟨w, hw, ht⟩ := run_scalar_sound h
        exact ⟨w, hw, .inl ht⟩
    case append =>
      rintro t w r (ht | ⟨ts, u, rfl, rfl, hu⟩ | ⟨ms, u, rfl, rfl, hu⟩) hr
      · obtain ⟨c, s, rfl, -, -, -, h₁, h₂⟩ := ht.head
        rw [List.cons_append, run_value_scalar h₁ h₂, ← List.cons_append]
        exact run_scalar_append ht hr
      · rw [List.cons_append, List.append_assoc, List.singleton_append, run_value_array,
          run_itemsOrNone_append ih (.inl rfl) hu, Option.map_some]
      · rw [List.cons_append, List.append_assoc, List.singleton_append, run_value_object,
          run_itemsOrNone_append (spells_memberOf ih) (.inr rfl) hu, Option.map_some]
    case head =>
      rintro t w (ht | ⟨ts, u, rfl, rfl, hu⟩ | ⟨ms, u, rfl, rfl, hu⟩)
      · exact spells_scalar.head ht
      · exact ⟨'[', _, rfl, by decide⟩
      · exact ⟨'\x7b', _, rfl, by decide⟩

theorem ItemsText.mono {Q : α → List Char → Prop} (hPQ : ∀ {x w}, P x w → Q x w) {xs : List α}
    {u : List Char} (h : ItemsText P xs u) : ItemsText Q xs u := by
  induction h with
  | one ha hx hb => exact .one ha (hPQ hx) hb
  | cons ha hx hb _ ih => exact .cons ha (hPQ hx) hb ih

theorem BodyText.mono {Q : α → List Char → Prop} (hPQ : ∀ {x w}, P x w → Q x w) {xs : List α}
    {u : List Char} (h : BodyText P xs u) : BodyText Q xs u := by
  cases h with
  | empty ha => exact .empty ha
  | items h => exact .items (h.mono hPQ)

/-- A text that may be nested deeper is still one. -/
theorem ValueText.succ {depth : Nat} {t : Tree} {w : List Char} (h : ValueText depth t w) :
    ValueText (depth + 1) t w := by
  induction depth generalizing t w with
  | zero => exact .inl h
  | succ depth ih =>
    rcases h with h | ⟨ts, u, rfl, rfl, hu⟩ | ⟨ms, u, rfl, rfl, hu⟩
    · exact .inl h
    · exact .inr (.inl ⟨ts, u, rfl, rfl, hu.mono ih⟩)
    · refine .inr (.inr ⟨ms, u, rfl, rfl, hu.mono ?_⟩)
      rintro m v ⟨hk, ha, hb, ht⟩
      exact ⟨hk, ha, hb, ih ht⟩

/-- An array is read back in front of every text, delimited or not. -/
theorem run_value_array_append {depth : Nat} {ts : List Tree} {u : List Char}
    (h : BodyText (ValueText depth) ts u) (r : List Char) :
    Reader.run (value (depth + 1)) ('[' :: (u ++ ']' :: r)) = some (.array ts, r) := by
  rw [run_value_array, run_itemsOrNone_append (spells_value depth) (.inl rfl) h, Option.map_some]

/-! ### Whole texts -/

theorem whole_eq (depth : Nat) (cs : List Char) :
    whole depth cs = (Reader.run (value depth) (skip cs)).bind fun p =>
      if (skip p.2).isEmpty then some p.1 else none := by
  unfold whole Reader.run
  cases value depth (skip cs) <;> simp

/-- **Whole texts are the texts of the grammar with blanks around them.** -/
theorem whole_eq_some_iff {depth : Nat} {cs : List Char} {t : Tree} :
    whole depth cs = some t ↔
      ∃ a w b, cs = a ++ (w ++ b) ∧ Blanks a ∧ ValueText depth t w ∧ Blanks b := by
  rw [whole_eq]
  constructor
  · intro h
    obtain ⟨⟨t', r⟩, hv, h⟩ := Option.bind_eq_some_iff.1 h
    obtain ⟨a, hcs, ha⟩ := exists_blanks_skip cs
    obtain ⟨w, hw, hwt⟩ := (spells_value depth).sound hv
    split_ifs at h with hr
    cases h
    exact ⟨a, w, r, by rw [← hw]; exact hcs, ha, hwt, skip_eq_nil_iff.1 (by simpa using hr)⟩
  · rintro ⟨a, w, b, rfl, ha, hw, hb⟩
    have hbd : Delimited b := by simpa using hb.delimited_append delimited_nil
    rw [(spells_value depth).run_skip ha hw hbd, Option.bind_some]
    simp [skip_eq_nil_iff.2 hb]

end ThreatModel.Json
