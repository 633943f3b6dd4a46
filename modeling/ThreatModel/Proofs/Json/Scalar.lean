import Mathlib
import ThreatModel.Json.Reader

/-!
# The grammar of JSON scalars

What the readers of literals, numerals and fixed words accept, as grammars over characters:
`LiteralText`, `NumeralText` and `ScalarText` say which characters spell which piece of a syntax
tree. Reading and spelling agree in both directions.

* `run_scalar_sound` : what `scalar` takes from the front of a text spells the tree it returns;
* `run_scalar_append` : a spelled scalar is read back in front of every text that cannot go on with
  a number (`Delimited`).

Readers return a rest together with the proof that it is shorter. `Reader.run` forgets the proof, so
that rests can be compared.
-/

namespace ThreatModel

/-- What a reader takes from the front of a text, and the text it leaves. -/
def Text.Reader.run {α : Type} (f : Text.Reader α) (cs : List Char) : Option (α × List Char) :=
  (f cs).map fun p => (p.1, p.2.1)

theorem Text.Reader.run_eq_some_iff {α : Type} {f : Text.Reader α} {cs r : List Char} {x : α} :
    f.run cs = some (x, r) ↔ ∃ s : Text.Rest cs, f cs = some (x, s) ∧ s.1 = r := by
  simp [Text.Reader.run]

theorem Text.Reader.length_of_run {α : Type} {f : Text.Reader α} {cs r : List Char} {x : α}
    (h : f.run cs = some (x, r)) : r.length < cs.length := by
  obtain ⟨s, -, rfl⟩ := run_eq_some_iff.1 h
  exact s.2

namespace Json

open Text (Reader Left)

/-- Nothing but blanks. -/
def Blanks (w : List Char) : Prop := ∀ c ∈ w, isBlank c = true

/-- Texts that cannot go on with a number: they are empty, or start with a blank, a comma or a
closing bracket. -/
def Delimited (r : List Char) : Prop :=
  ∀ c ∈ r.head?, isBlank c = true ∨ c = ',' ∨ c = ']' ∨ c = '\x7d'

/-- A run of digits that is not empty, and their values. -/
def DigitsText (ds : List Nat) (w : List Char) : Prop :=
  w ≠ [] ∧ (∀ c ∈ w, c.isDigit = true) ∧ ds = w.map fun c => c.toNat - 48

/-- The rest of a string literal behind its opening quote. -/
inductive LiteralText : Literal → List Char → Prop
  | close : LiteralText [] ['"']
  | unit {a b c d : Char} {i j k l : Nat} {t : Literal} {w : List Char}
      (ha : Text.hexValue? a = some i) (hb : Text.hexValue? b = some j)
      (hc : Text.hexValue? c = some k) (hd : Text.hexValue? d = some l) (h : LiteralText t w) :
      LiteralText (.unit ((i * 16 + j) * 256 + k * 16 + l) :: t)
        ('\\' :: 'u' :: a :: b :: c :: d :: w)
  | escape {e c : Char} {t : Literal} {w : List Char} (he : shortEscape? e = some c)
      (h : LiteralText t w) : LiteralText (.char c :: t) ('\\' :: e :: w)
  | char {c : Char} {t : Literal} {w : List Char} (hq : c ≠ '"') (hb : c ≠ '\\')
      (hc : 32 ≤ c.toNat) (h : LiteralText t w) : LiteralText (.char c :: t) (c :: w)

/-- The part of a numeral behind its whole digits. -/
inductive FractionText : Option (List Nat) → List Char → Prop
  | absent : FractionText none []
  | present {ds : List Nat} {w : List Char} (h : DigitsText ds w) :
      FractionText (some ds) ('.' :: w)

/-- The exponent of a numeral. -/
inductive ExponentText : Option (Bool × List Nat) → List Char → Prop
  | absent : ExponentText none []
  | bare {m : Char} {ds : List Nat} {w : List Char} (hm : m = 'e' ∨ m = 'E')
      (h : DigitsText ds w) : ExponentText (some (false, ds)) (m :: w)
  | plus {m : Char} {ds : List Nat} {w : List Char} (hm : m = 'e' ∨ m = 'E')
      (h : DigitsText ds w) : ExponentText (some (false, ds)) (m :: '+' :: w)
  | minus {m : Char} {ds : List Nat} {w : List Char} (hm : m = 'e' ∨ m = 'E')
      (h : DigitsText ds w) : ExponentText (some (true, ds)) (m :: '-' :: w)

/-- A numeral: a sign, digits without a leading zero, a fraction and an exponent. -/
inductive NumeralText : Numeral → List Char → Prop
  | intro {negative : Bool} {d : Nat} {ds : List Nat} {frac : Option (List Nat)}
      {exp : Option (Bool × List Nat)} {w f e : List Char} (hw : DigitsText (d :: ds) w)
      (hz : d = 0 → ds = []) (hf : FractionText frac f) (he : ExponentText exp e) :
      NumeralText ⟨negative, d :: ds, frac, exp⟩
        ((if negative then ['-'] else []) ++ (w ++ (f ++ e)))

/-- A scalar: a fixed word, a string or a number. -/
inductive ScalarText : Tree → List Char → Prop
  | nullWord : ScalarText .null ['n', 'u', 'l', 'l']
  | trueWord : ScalarText (.bool true) ['t', 'r', 'u', 'e']
  | falseWord : ScalarText (.bool false) ['f', 'a', 'l', 's', 'e']
  | string {l : Literal} {w : List Char} (h : LiteralText l w) :
      ScalarText (.string l) ('"' :: w)
  | number {n : Numeral} {w : List Char} (h : NumeralText n w) : ScalarText (.number n) w

/-! ### Literals -/

theorem run_literal_sound {cs r : List Char} {l : Literal}
    (h : Reader.run literal cs = some (l, r)) : ∃ w, cs = w ++ r ∧ LiteralText l w := by
  unfold Reader.run at h
  fun_induction literal cs generalizing l r with
  | case1 => simp at h
  | case2 r' =>
    simp only [Option.map_some, Option.some.injEq, Prod.mk.injEq] at h
    obtain ⟨rfl, rfl⟩ := h
    exact ⟨['"'], rfl, .close⟩
  | case3 a b c d r' ih =>
    simp only [Option.bind_eq_bind, Option.pure_def, Option.map_bind, Option.bind_eq_some_iff,
      Function.comp_apply, Option.map_some, Option.some.injEq, Prod.mk.injEq] at h
    obtain ⟨i, ha, j, hb, k, hc, m, hd, ⟨t, s⟩, ht, rfl, rfl⟩ := h
    obtain ⟨w, hr, hw⟩ := ih (l := t) (r := s.1) (by rw [ht]; rfl)
    exact ⟨'\\' :: 'u' :: a :: b :: c :: d :: w, by simpa [Text.Rest.within] using hr,
      .unit ha hb hc hd hw⟩
  | case4 e r' hne ih =>
    simp only [Option.bind_eq_bind, Option.pure_def, Option.map_bind, Option.bind_eq_some_iff,
      Function.comp_apply, Option.map_some, Option.some.injEq, Prod.mk.injEq] at h
    obtain ⟨c, hc, ⟨t, s⟩, ht, rfl, rfl⟩ := h
    obtain ⟨w, hr, hw⟩ := ih (l := t) (r := s.1) (by rw [ht]; rfl)
    exact ⟨'\\' :: e :: w, by simpa [Text.Rest.within] using hr, .escape hc hw⟩
  | case5 => simp at h
  | case6 c r' hq _ _ hc ih =>
    simp only [Option.bind_eq_bind, Option.pure_def, Option.map_bind, Option.bind_eq_some_iff,
      Function.comp_apply, Option.map_some, Option.some.injEq, Prod.mk.injEq] at h
    obtain ⟨⟨t, s⟩, ht, rfl, rfl⟩ := h
    obtain ⟨w, hr, hw⟩ := ih (l := t) (r := s.1) (by rw [ht]; rfl)
    simp only [Bool.or_eq_true, decide_eq_true_eq, not_or, Nat.not_lt] at hc
    exact ⟨c :: w, by simpa [Text.Rest.within] using hr, .char hq hc.1 hc.2 hw⟩

theorem run_literal_append {l : Literal} {w : List Char} (h : LiteralText l w) (r : List Char) :
    Reader.run literal (w ++ r) = some (l, r) := by
  induction h with
  | close => rfl
  | unit ha hb hc hd _ ih =>
    obtain ⟨s, ht, hs⟩ := Reader.run_eq_some_iff.1 ih
    simp [Reader.run, literal, ha, hb, hc, hd, ht, hs]
  | @escape e c t w he _ ih =>
    obtain ⟨s, ht, hs⟩ := Reader.run_eq_some_iff.1 ih
    have hu : e ≠ 'u' := by rintro rfl; simp [shortEscape?] at he
    rw [List.cons_append, List.cons_append, Reader.run, literal.eq_4 _ _ (by intros; contradiction)]
    simp [he, ht, hs]
  | char hq hb hc _ ih =>
    obtain ⟨s, ht, hs⟩ := Reader.run_eq_some_iff.1 ih
    rw [List.cons_append, Reader.run,
      literal.eq_5 _ _ hq (by intros; contradiction) (by intros; contradiction)]
    simp [hb, Nat.not_lt.2 hc, ht, hs]

/-! ### Numerals -/

theorem digits_append {w r : List Char} (hw : ∀ c ∈ w, c.isDigit = true)
    (hr : ∀ c ∈ r.head?, c.isDigit = false) :
    digits (w ++ r) = (w.map fun c => c.toNat - 48, r) := by
  induction w with
  | nil =>
    cases r with
    | nil => rfl
    | cons c r => simp [digits, hr c (by simp)]
  | cons c w ih =>
    have hc := hw c List.mem_cons_self
    simp [digits, hc, ih fun x hx => hw x (List.mem_cons_of_mem _ hx)]

/-- The digits at the front of a text, as a split of the text. -/
theorem digits_sound (cs : List Char) :
    ∃ w, cs = w ++ (digits cs).2 ∧ (∀ c ∈ w, c.isDigit = true) ∧
      (digits cs).1 = w.map fun c => c.toNat - 48 := by
  induction cs with
  | nil => exact ⟨[], by simp [digits]⟩
  | cons c r ih =>
    by_cases hc : c.isDigit = true
    · obtain ⟨w, hr, hw, hd⟩ := ih
      refine ⟨c :: w, ?_, ?_, ?_⟩
      · simpa [digits, hc] using hr
      · simpa [hc] using hw
      · simp [digits, hc, hd]
    · exact ⟨[], by simp [digits, hc]⟩

theorem digitsText_of_digits {cs : List Char} (h : (digits cs).1 ≠ []) :
    ∃ w, cs = w ++ (digits cs).2 ∧ DigitsText (digits cs).1 w := by
  obtain ⟨w, hr, hw, hd⟩ := digits_sound cs
  refine ⟨w, hr, ?_, hw, hd⟩
  rintro rfl
  exact h hd

theorem DigitsText.digits_append {ds : List Nat} {w r : List Char} (h : DigitsText ds w)
    (hr : ∀ c ∈ r.head?, c.isDigit = false) : digits (w ++ r) = (ds, r) := by
  rw [Json.digits_append h.2.1 hr, h.2.2]

theorem DigitsText.ne_nil {ds : List Nat} {w : List Char} (h : DigitsText ds w) : ds ≠ [] := by
  rw [h.2.2]
  simpa using h.1

theorem fractionPart_sound {cs : List Char} {f : Option (List Nat)}
    {s : Left cs} (h : fractionPart cs = some (f, s)) :
    ∃ w, cs = w ++ s.1 ∧ FractionText f w := by
  unfold fractionPart at h
  split at h
  next r =>
    split_ifs at h with hd
    simp only [Option.some.injEq, Prod.mk.injEq] at h
    obtain ⟨rfl, rfl⟩ := h
    have hne : (digits r).1 ≠ [] := by simpa using hd
    obtain ⟨w, hr, hw⟩ := digitsText_of_digits hne
    exact ⟨'.' :: w, congrArg ('.' :: ·) hr, .present hw⟩
  next r _ =>
    simp only [Option.some.injEq, Prod.mk.injEq] at h
    obtain ⟨rfl, rfl⟩ := h
    exact ⟨[], rfl, .absent⟩

theorem fractionPart_append {f : Option (List Nat)} {w r : List Char} (h : FractionText f w)
    (hd : ∀ c ∈ r.head?, c.isDigit = false) (hp : r.head? ≠ some '.') :
    ∃ s, fractionPart (w ++ r) = some (f, s) ∧ s.1 = r := by
  cases h with
  | absent => exact ⟨.all r, fractionPart.eq_2 _ (by rintro r rfl; simp at hp), rfl⟩
  | @present ds w h =>
    simp only [List.cons_append, fractionPart]
    have := h.digits_append hd
    simp [this, h.ne_nil]

theorem exponentPart_sound {cs : List Char} {e : Option (Bool × List Nat)}
    {s : Left cs} (h : exponentPart cs = some (e, s)) :
    ∃ w, cs = w ++ s.1 ∧ ExponentText e w := by
  unfold exponentPart at h
  split at h
  next =>
    simp only [Option.some.injEq, Prod.mk.injEq] at h
    obtain ⟨rfl, rfl⟩ := h
    exact ⟨[], rfl, .absent⟩
  next m r =>
    split_ifs at h with hm
    · have hm' : m = 'e' ∨ m = 'E' := by simpa using hm
      split at h
      next negative ds hl hsign =>
      split_ifs at h with hd
      simp only [Option.some.injEq, Prod.mk.injEq] at h
      obtain ⟨rfl, rfl⟩ := h
      have hne : (digits ds).1 ≠ [] := by simpa using hd
      obtain ⟨w, hr, hw⟩ := digitsText_of_digits hne
      split at hsign
      next t =>
        simp only [Prod.mk.injEq, Text.Left.behind, Text.Left.all, Subtype.mk.injEq] at hsign
        obtain ⟨rfl, rfl⟩ := hsign
        exact ⟨m :: '-' :: w, by simpa using hr, .minus hm' hw⟩
      next t =>
        simp only [Prod.mk.injEq, Text.Left.behind, Text.Left.all, Subtype.mk.injEq] at hsign
        obtain ⟨rfl, rfl⟩ := hsign
        exact ⟨m :: '+' :: w, by simpa using hr, .plus hm' hw⟩
      next t _ _ =>
        simp only [Prod.mk.injEq, Text.Left.all, Subtype.mk.injEq] at hsign
        obtain ⟨rfl, rfl⟩ := hsign
        exact ⟨m :: w, by simpa using hr, .bare hm' hw⟩
    · simp only [Option.some.injEq, Prod.mk.injEq] at h
      obtain ⟨rfl, rfl⟩ := h
      exact ⟨[], rfl, .absent⟩

theorem exponentPart_append {e : Option (Bool × List Nat)} {w r : List Char}
    (h : ExponentText e w) (hd : ∀ c ∈ r.head?, c.isDigit = false)
    (he : ∀ c ∈ r.head?, c ≠ 'e' ∧ c ≠ 'E') :
    ∃ s, exponentPart (w ++ r) = some (e, s) ∧ s.1 = r := by
  cases h with
  | absent =>
    refine ⟨.all r, ?_, rfl⟩
    cases r with
    | nil => rfl
    | cons c r => simp [exponentPart, he c (by simp)]
  | @bare m ds w hm h =>
    have hds := h.ne_nil
    have hw := h.digits_append hd
    obtain ⟨hne, hall, -⟩ := h
    cases w with
    | nil => exact absurd rfl hne
    | cons c w =>
      -- A digit is no sign.
      have hc := hall c List.mem_cons_self
      have h₁ : c ≠ '-' := by rintro rfl; revert hc; decide
      have h₂ : c ≠ '+' := by rintro rfl; revert hc; decide
      rw [List.cons_append] at hw
      simp [exponentPart, hm, h₁, h₂, hw, hds]
  | plus hm h =>
    have := h.digits_append hd
    simp [exponentPart, hm, this, h.ne_nil]
  | minus hm h =>
    have := h.digits_append hd
    simp [exponentPart, hm, this, h.ne_nil]

/-- What follows a number does not go on with it. -/
theorem Delimited.head {r : List Char} (h : Delimited r) {c : Char} (hc : c ∈ r.head?) :
    c.isDigit = false ∧ c ≠ '.' ∧ c ≠ 'e' ∧ c ≠ 'E' := by
  rcases h c hc with hb | rfl | rfl | rfl
  · simp only [isBlank, Bool.or_eq_true, beq_iff_eq] at hb
    rcases hb with ((rfl | rfl) | rfl) | rfl <;> decide
  all_goals decide

theorem run_unsignedNumeral_sound {negative : Bool} {cs r : List Char} {n : Numeral}
    (h : Reader.run (unsignedNumeral negative) cs = some (n, r)) :
    ∃ w, cs = w ++ r ∧ NumeralText n ((if negative then ['-'] else []) ++ w) := by
  obtain ⟨s, hs, rfl⟩ := Reader.run_eq_some_iff.1 h
  unfold unsignedNumeral at hs
  split at hs
  next => cases hs
  next d ds r' hd =>
    split_ifs at hs with hz
    simp only [Option.bind_eq_bind, Option.pure_def, Option.bind_eq_some_iff, Option.some.injEq,
      Prod.mk.injEq] at hs
    obtain ⟨⟨f, r₁, h₁⟩, hf, ⟨e, r₂, h₂⟩, he, rfl, rfl⟩ := hs
    have hne : (digits cs).1 ≠ [] := by simp [hd]
    obtain ⟨w, hw, hwt⟩ := digitsText_of_digits hne
    obtain ⟨wf, hwf, hft⟩ := fractionPart_sound hf
    obtain ⟨we, hwe, het⟩ := exponentPart_sound he
    rw [hd] at hw hwt
    refine ⟨w ++ (wf ++ we), ?_, .intro hwt ?_ hft het⟩
    · simp only at hw hwf hwe ⊢
      simp [hw, hwf, hwe]
    · intro hd0
      simpa [hd0] using hz

theorem run_unsignedNumeral_append (negative : Bool) {d : Nat} {ds : List Nat}
    {frac : Option (List Nat)} {exp : Option (Bool × List Nat)} {w f e r : List Char}
    (hw : DigitsText (d :: ds) w) (hz : d = 0 → ds = []) (hf : FractionText frac f)
    (he : ExponentText exp e) (hr : Delimited r) :
    Reader.run (unsignedNumeral negative) (w ++ (f ++ (e ++ r))) =
      some (⟨negative, d :: ds, frac, exp⟩, r) := by
  -- What follows the exponent, the fraction and the whole digits goes on with none of them.
  have hd : ∀ c ∈ r.head?, c.isDigit = false := fun c hc => (hr.head hc).1
  have hed : ∀ c ∈ (e ++ r).head?, c.isDigit = false ∧ c ≠ '.' := by
    cases he with
    | absent => exact fun c hc => ⟨(hr.head hc).1, (hr.head hc).2.1⟩
    | bare hm _ => rcases hm with rfl | rfl <;> simp
    | plus hm _ => rcases hm with rfl | rfl <;> simp
    | minus hm _ => rcases hm with rfl | rfl <;> simp
  have hfd : ∀ c ∈ (f ++ (e ++ r)).head?, c.isDigit = false := by
    cases hf with
    | absent => exact fun c hc => (hed c hc).1
    | present _ => simp
  obtain ⟨⟨_, _⟩, hfrac, rfl⟩ :=
    fractionPart_append hf (fun c hc => (hed c hc).1) fun hp => (hed '.' hp).2 rfl
  obtain ⟨⟨r', _⟩, hexp, hr'⟩ := exponentPart_append he hd fun c hc => (hr.head hc).2.2
  obtain rfl : r' = r := hr'
  have hdig := hw.digits_append hfd
  unfold Reader.run unsignedNumeral
  split
  next h => rw [hdig] at h; cases h
  next d' ds' r' h =>
    rw [hdig] at h
    cases h
    have hz' : (decide (d = 0) && !ds.isEmpty) = false := by
      by_cases h0 : d = 0 <;> simp [h0, hz]
    simp [hz', hfrac, hexp]

theorem run_numeral_sound {cs r : List Char} {n : Numeral}
    (h : Reader.run numeral cs = some (n, r)) : ∃ w, cs = w ++ r ∧ NumeralText n w := by
  obtain ⟨s, hs, rfl⟩ := Reader.run_eq_some_iff.1 h
  unfold numeral at hs
  split at hs
  next r' =>
    obtain ⟨⟨m, s'⟩, hm, he⟩ := Option.map_eq_some_iff.1 hs
    cases he
    obtain ⟨w, hw, ht⟩ := run_unsignedNumeral_sound (Reader.run_eq_some_iff.2 ⟨s', hm, rfl⟩)
    exact ⟨'-' :: w, congrArg ('-' :: ·) hw, ht⟩
  next r' _ => exact run_unsignedNumeral_sound (Reader.run_eq_some_iff.2 ⟨s, hs, rfl⟩)

theorem run_numeral_append {n : Numeral} {w r : List Char} (h : NumeralText n w)
    (hr : Delimited r) : Reader.run numeral (w ++ r) = some (n, r) := by
  obtain @⟨negative, d, ds, frac, exp, w, f, e, hw, hz, hf, he⟩ := h
  have hrun := run_unsignedNumeral_append negative hw hz hf he hr
  simp only [List.append_assoc]
  cases negative with
  | true =>
    obtain ⟨s, hs, hsr⟩ := Reader.run_eq_some_iff.1 hrun
    simp [Reader.run, numeral, hs, hsr]
  | false =>
    obtain ⟨hne, hall, -⟩ := hw
    cases w with
    | nil => exact absurd rfl hne
    | cons c w =>
      have hc : c ≠ '-' := by
        rintro rfl
        exact absurd (hall _ List.mem_cons_self) (by decide)
      simpa [Reader.run, numeral, hc] using hrun

/-! ### Scalars -/

theorem word_sound {ws cs : List Char} {s : Left cs}
    (h : word ws cs = some s) : cs = ws ++ s.1 := by
  induction ws generalizing cs with
  | nil =>
    rw [word, Option.some.injEq] at h
    rw [← h]
    rfl
  | cons w ws ih =>
    cases cs with
    | nil => cases h
    | cons c cs =>
      rw [word] at h
      split_ifs at h with hc
      obtain ⟨u, hu, rfl⟩ := Option.map_eq_some_iff.1 h
      rw [hc, Text.Left.val_behind, List.cons_append, ← ih hu]

theorem run_scalar_sound {cs r : List Char} {t : Tree}
    (h : Reader.run scalar cs = some (t, r)) : ∃ w, cs = w ++ r ∧ ScalarText t w := by
  obtain ⟨s, hs, rfl⟩ := Reader.run_eq_some_iff.1 h
  unfold scalar at hs
  split at hs
  next r' =>
    obtain ⟨u, hu, he⟩ := Option.map_eq_some_iff.1 hs
    cases he
    exact ⟨_, congrArg ('n' :: ·) (word_sound hu), .nullWord⟩
  next r' =>
    obtain ⟨u, hu, he⟩ := Option.map_eq_some_iff.1 hs
    cases he
    exact ⟨_, congrArg ('t' :: ·) (word_sound hu), .trueWord⟩
  next r' =>
    obtain ⟨u, hu, he⟩ := Option.map_eq_some_iff.1 hs
    cases he
    exact ⟨_, congrArg ('f' :: ·) (word_sound hu), .falseWord⟩
  next r' =>
    obtain ⟨⟨l, u⟩, hu, he⟩ := Option.map_eq_some_iff.1 hs
    simp only [Prod.mk.injEq] at he
    obtain ⟨rfl, rfl⟩ := he
    obtain ⟨w, hw, ht⟩ := run_literal_sound (Reader.run_eq_some_iff.2 ⟨u, hu, rfl⟩)
    exact ⟨_, congrArg ('"' :: ·) hw, .string ht⟩
  next =>
    obtain ⟨⟨n, u⟩, hu, he⟩ := Option.map_eq_some_iff.1 hs
    simp only [Prod.mk.injEq] at he
    obtain ⟨rfl, rfl⟩ := he
    obtain ⟨w, hw, ht⟩ := run_numeral_sound (Reader.run_eq_some_iff.2 ⟨u, hu, rfl⟩)
    exact ⟨w, hw, .number ht⟩

/-- The first character of a numeral is its sign or a digit. -/
theorem NumeralText.exists_cons {n : Numeral} {w : List Char} (h : NumeralText n w) :
    ∃ c r, w = c :: r ∧ (c = '-' ∨ c.isDigit = true) := by
  obtain @⟨negative, d, ds, frac, exp, w, f, e, hw, hz, hf, he⟩ := h
  cases negative with
  | true => exact ⟨'-', w ++ (f ++ e), rfl, .inl rfl⟩
  | false =>
    obtain ⟨hne, hall, -⟩ := hw
    cases w with
    | nil => exact absurd rfl hne
    | cons c w => exact ⟨c, w ++ (f ++ e), rfl, .inr (hall c List.mem_cons_self)⟩

theorem run_scalar_append {t : Tree} {w r : List Char} (h : ScalarText t w)
    (hr : Delimited r) : Reader.run scalar (w ++ r) = some (t, r) := by
  cases h with
  | nullWord => rfl
  | trueWord => rfl
  | falseWord => rfl
  | string h =>
    obtain ⟨s, hs, hsr⟩ := Reader.run_eq_some_iff.1 (run_literal_append h r)
    simp [Reader.run, scalar, hs, hsr]
  | number h =>
    obtain ⟨s, hs, hsr⟩ := Reader.run_eq_some_iff.1 (run_numeral_append h hr)
    obtain ⟨c, w, rfl, hc⟩ := h.exists_cons
    -- No other scalar starts with a sign or a digit.
    have hne : c ≠ 'n' ∧ c ≠ 't' ∧ c ≠ 'f' ∧ c ≠ '"' := by
      refine ⟨?_, ?_, ?_, ?_⟩ <;> · rintro rfl; revert hc; decide
    rw [Reader.run, scalar.eq_5 _ (by simp [hne]) (by simp [hne]) (by simp [hne]) (by simp [hne]),
      hs]
    exact congrArg (fun r => some (Tree.number _, r)) hsr

end Json

end ThreatModel
