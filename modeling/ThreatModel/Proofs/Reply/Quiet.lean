import ThreatModel.Proofs.Json.ArrayText
import ThreatModel.Reply.Fence

/-!
# Scanning JSON texts

The searches of a reply know little of JSON: `beforeFence?` and `throughElement?` follow string
literals and count brackets of both kinds alike. This file shows that this is enough on JSON texts.

A scan is *quiet* over a text if it meets no fence there and passes no place where an element of the
outermost array ends (`quiet`). Over quiet texts both searches just go on
(`throughElement?_append`, `beforeFence?_append`).

* `quiet_value` : a value below the elements of the array is quiet, and leaves the scan as it was;
* `quiet_element` : so is an element that is no object;
* `quiet_object` : an object is quiet up to its closing brace.
-/

namespace ThreatModel.Reply

open Json

variable {α : Type} {P : α → List Char → Prop}

/-- The place and the depth of a scan behind one more character; nothing if the character is a
backtick outside of literals or closes the outermost array or an object that is its element. -/
def quietStep : Place × Nat → Char → Option (Place × Nat)
  | (.outside, n), c =>
    if c = '`' then none
    else if c = '[' ∨ c = '\x7b' then some (.outside, n + 1)
    else if c = ']' ∨ c = '\x7d' then
      if n ≤ 1 ∨ (c = '\x7d' ∧ n = 2) then none else some (.outside, n - 1)
    else some (Place.outside.step c, n)
  | (p, n), c => some (p.step c, n)

/-- The place and the depth of a scan behind a text, if it is quiet. -/
def quiet (s : Place × Nat) (w : List Char) : Option (Place × Nat) := w.foldlM quietStep s

@[simp] theorem quiet_nil (s : Place × Nat) : quiet s [] = some s := rfl

theorem quiet_cons (s : Place × Nat) (c : Char) (w : List Char) :
    quiet s (c :: w) = (quietStep s c).bind fun s' => quiet s' w := rfl

theorem quiet_append (s : Place × Nat) (u w : List Char) :
    quiet s (u ++ w) = (quiet s u).bind fun s' => quiet s' w :=
  List.foldlM_append ..

/-- A front of a quiet text is quiet. -/
theorem quiet_front {s s' : Place × Nat} {u w : List Char} (h : quiet s (u ++ w) = some s') :
    ∃ s₁, quiet s u = some s₁ := by
  rw [quiet_append] at h
  obtain ⟨s₁, h₁, -⟩ := Option.bind_eq_some_iff.1 h
  exact ⟨s₁, h₁⟩

/-! ### Searches over quiet texts -/

section

variable {p q : Place} {n m : Nat} {c : Char} {w : List Char}

theorem throughElement?_cons_of_quietStep (h : quietStep (p, n) c = some (q, m)) (r : List Char) :
    throughElement? p n (c :: r) = (throughElement? q m r).map (c :: ·) := by
  cases p with
  | outside =>
    simp only [quietStep] at h
    split_ifs at h with hb ho hc hn
    · cases h
      simp [throughElement?, ho]
    · cases h
      -- The depth stays positive, and no object of depth two is closed.
      have h₀ : n - 1 ≠ 0 := by omega
      have h₂ : ¬ (c = '\x7d' ∧ n = 2) := fun h' => hn (.inr h')
      rw [throughElement?, if_neg (by simpa using ho), if_pos (by simpa using hc)]
      simp only [h₀, ↓reduceIte]
      cases throughElement? .outside (n - 1) r <;> simp [h₂]
    · cases h
      rw [throughElement?, if_neg (by simpa using ho), if_neg (by simpa using hc)]
  | inside =>
    cases h
    simp [throughElement?]
  | escaped =>
    cases h
    simp [throughElement?]

theorem beforeFence?_cons_of_quietStep (h : quietStep (p, n) c = some (q, m)) (r : List Char) :
    beforeFence? p (c :: r) = (beforeFence? q r).map (c :: ·) := by
  cases p with
  | outside =>
    have hq : q = Place.outside.step c ∧ c ≠ '`' := by
      simp only [quietStep] at h
      split_ifs at h with hb ho hc hn
      · cases h
        rcases ho with rfl | rfl <;> exact ⟨rfl, hb⟩
      · cases h
        rcases hc with rfl | rfl <;> exact ⟨rfl, hb⟩
      · cases h
        exact ⟨rfl, hb⟩
    rw [beforeFence?, if_neg (by simp [fence, hq.2.symm]), hq.1]
  | inside =>
    cases h
    simp [beforeFence?]
  | escaped =>
    cases h
    simp [beforeFence?]

/-- The search for the end of an element goes on over a quiet text. -/
theorem throughElement?_append (h : quiet (p, n) w = some (q, m)) (r : List Char) :
    throughElement? p n (w ++ r) = (throughElement? q m r).map (w ++ ·) := by
  induction w generalizing p n with
  | nil =>
    cases h
    simp
  | cons c w ih =>
    rw [quiet_cons] at h
    obtain ⟨⟨p', n'⟩, h₁, h₂⟩ := Option.bind_eq_some_iff.1 h
    rw [List.cons_append, throughElement?_cons_of_quietStep h₁, ih h₂, Option.map_map]
    rfl

/-- No element ends in a quiet text. -/
theorem throughElement?_of_quiet (h : quiet (p, n) w = some (q, m)) :
    throughElement? p n w = none := by
  simpa [throughElement?] using throughElement?_append h []

/-- The search for a fence goes on over a quiet text. -/
theorem beforeFence?_append (h : quiet (p, n) w = some (q, m)) (r : List Char) :
    beforeFence? p (w ++ r) = (beforeFence? q r).map (w ++ ·) := by
  induction w generalizing p n with
  | nil =>
    cases h
    simp
  | cons c w ih =>
    rw [quiet_cons] at h
    obtain ⟨⟨p', n'⟩, h₁, h₂⟩ := Option.bind_eq_some_iff.1 h
    rw [List.cons_append, beforeFence?_cons_of_quietStep h₁, ih h₂, Option.map_map]
    rfl

/-- No fence outside of literals stands in a quiet text. -/
theorem beforeFence?_of_quiet (h : quiet (p, n) w = some (q, m)) : beforeFence? p w = none := by
  simpa [beforeFence?] using beforeFence?_append h []

end

/-! ### Quiet texts -/

/-- Characters that a scan outside of literals passes over. -/
def IsPlain (c : Char) : Prop :=
  c ≠ '`' ∧ c ≠ '[' ∧ c ≠ '\x7b' ∧ c ≠ ']' ∧ c ≠ '\x7d' ∧ c ≠ '"'

instance (c : Char) : Decidable (IsPlain c) := by unfold IsPlain; infer_instance

theorem quietStep_of_isPlain {c : Char} (hc : IsPlain c) (n : Nat) :
    quietStep (.outside, n) c = some (.outside, n) := by
  obtain ⟨h₁, h₂, h₃, h₄, h₅, h₆⟩ := hc
  simp [quietStep, Place.step, h₁, h₂, h₃, h₄, h₅, h₆]

theorem quiet_of_isPlain {w : List Char} (hw : ∀ c ∈ w, IsPlain c) (n : Nat) :
    quiet (.outside, n) w = some (.outside, n) := by
  induction w with
  | nil => rfl
  | cons c w ih =>
    rw [quiet_cons, quietStep_of_isPlain (hw c List.mem_cons_self), Option.bind_some]
    exact ih fun x hx => hw x (List.mem_cons_of_mem _ hx)

theorem isPlain_of_isDigit {c : Char} (hc : c.isDigit = true) : IsPlain c := by
  refine ⟨?_, ?_, ?_, ?_, ?_, ?_⟩ <;> rintro rfl <;> revert hc <;> decide

theorem quiet_blanks {w : List Char} (hw : Blanks w) (n : Nat) :
    quiet (.outside, n) w = some (.outside, n) := by
  refine quiet_of_isPlain (fun c hc => ?_) n
  have hb := hw c hc
  refine ⟨?_, ?_, ?_, ?_, ?_, ?_⟩ <;> rintro rfl <;> revert hb <;> decide

theorem hexValue?_ne {c : Char} {k : Nat} (h : Text.hexValue? c = some k) :
    c ≠ '"' ∧ c ≠ '\\' := by
  constructor <;> rintro rfl <;> cases h

theorem quietStep_inside {c : Char} (h₁ : c ≠ '"') (h₂ : c ≠ '\\') (n : Nat) :
    quietStep (.inside, n) c = some (.inside, n) := by
  simp [quietStep, Place.step, h₁, h₂]

/-- A literal is quiet and ends outside. -/
theorem quiet_literal {l : Literal} {w : List Char} (h : LiteralText l w) (n : Nat) :
    quiet (.inside, n) w = some (.outside, n) := by
  induction h with
  | close => rfl
  | @unit a b c d i j k m t w ha hb hc hd _ ih =>
    have h₁ := quietStep_inside (hexValue?_ne ha).1 (hexValue?_ne ha).2 n
    have h₂ := quietStep_inside (hexValue?_ne hb).1 (hexValue?_ne hb).2 n
    have h₃ := quietStep_inside (hexValue?_ne hc).1 (hexValue?_ne hc).2 n
    have h₄ := quietStep_inside (hexValue?_ne hd).1 (hexValue?_ne hd).2 n
    change quiet (.inside, n) (a :: b :: c :: d :: w) = _
    simp only [quiet_cons, h₁, h₂, h₃, h₄, Option.bind_some, ih]
  | escape _ _ ih => exact ih
  | char hq hb _ _ ih => rw [quiet_cons, quietStep_inside hq hb, Option.bind_some, ih]

theorem DigitsText.isPlain {ds : List Nat} {w : List Char} (h : DigitsText ds w) :
    ∀ c ∈ w, IsPlain c := fun c hc => isPlain_of_isDigit (h.2.1 c hc)

theorem FractionText.isPlain {f : Option (List Nat)} {w : List Char} (h : FractionText f w) :
    ∀ c ∈ w, IsPlain c := by
  cases h with
  | absent => simp
  | present h =>
    rintro c (_ | ⟨_, hc⟩)
    · decide
    · exact DigitsText.isPlain h c hc

theorem ExponentText.isPlain {e : Option (Bool × List Nat)} {w : List Char}
    (h : ExponentText e w) : ∀ c ∈ w, IsPlain c := by
  have mark {m : Char} (hm : m = 'e' ∨ m = 'E') : IsPlain m := by
    rcases hm with rfl | rfl <;> decide
  cases h with
  | absent => simp
  | bare hm h =>
    rintro c (_ | ⟨_, hc⟩)
    · exact mark hm
    · exact DigitsText.isPlain h c hc
  | plus hm h =>
    rintro c (_ | ⟨_, _ | ⟨_, hc⟩⟩)
    · exact mark hm
    · decide
    · exact DigitsText.isPlain h c hc
  | minus hm h =>
    rintro c (_ | ⟨_, _ | ⟨_, hc⟩⟩)
    · exact mark hm
    · decide
    · exact DigitsText.isPlain h c hc

theorem NumeralText.isPlain {k : Numeral} {w : List Char} (h : NumeralText k w) :
    ∀ c ∈ w, IsPlain c := by
  obtain @⟨negative, d, ds, frac, exp, w, f, e, hw, -, hf, he⟩ := h
  intro c hc
  simp only [List.mem_append] at hc
  rcases hc with hc | hc | hc | hc
  · cases negative with
    | false => cases hc
    | true =>
      rw [List.mem_singleton.1 hc]
      decide
  · exact DigitsText.isPlain hw c hc
  · exact FractionText.isPlain hf c hc
  · exact ExponentText.isPlain he c hc

theorem quiet_scalar {t : Json.Tree} {w : List Char} (h : ScalarText t w) (n : Nat) :
    quiet (.outside, n) w = some (.outside, n) := by
  cases h with
  | nullWord => rfl
  | trueWord => rfl
  | falseWord => rfl
  | string h => exact quiet_literal h n
  | number h => exact quiet_of_isPlain (NumeralText.isPlain h) n

/-- Items that are quiet at a depth are quiet together. -/
theorem quiet_items {n : Nat} (hP : ∀ {x w}, P x w → quiet (.outside, n) w = some (.outside, n))
    {xs : List α} {u : List Char} (h : ItemsText P xs u) :
    quiet (.outside, n) u = some (.outside, n) := by
  have comma := quietStep_of_isPlain (c := ',') (by decide) n
  induction h with
  | one ha hx hb => simp [quiet_append, quiet_blanks ha, hP hx, quiet_blanks hb]
  | cons ha hx hb _ ih =>
    simp [quiet_append, quiet_cons, quiet_blanks ha, hP hx, quiet_blanks hb, comma, ih]

theorem quiet_body {n : Nat} (hP : ∀ {x w}, P x w → quiet (.outside, n) w = some (.outside, n))
    {xs : List α} {u : List Char} (h : BodyText P xs u) :
    quiet (.outside, n) u = some (.outside, n) := by
  cases h with
  | empty ha => exact quiet_blanks ha n
  | items h => exact quiet_items hP h

theorem quiet_member {n : Nat} {P : Json.Tree → List Char → Prop}
    (hP : ∀ {x w}, P x w → quiet (.outside, n) w = some (.outside, n)) {m : Literal × Json.Tree}
    {w : List Char} (h : MemberText P m w) : quiet (.outside, n) w = some (.outside, n) := by
  have colon := quietStep_of_isPlain (c := ':') (by decide) n
  obtain ⟨hk, ha, hb, ht⟩ := h
  change quiet (.inside, n) _ = _
  simp [quiet_append, quiet_cons, quiet_literal hk, quiet_blanks ha, colon, quiet_blanks hb, hP ht]

theorem quietStep_close {n : Nat} (hn : 2 ≤ n) :
    quietStep (.outside, n) ']' = some (.outside, n - 1) := by
  have : ¬ n ≤ 1 := by omega
  simp [quietStep, this]

theorem quietStep_closeBrace {n : Nat} (hn : 3 ≤ n) :
    quietStep (.outside, n) '\x7d' = some (.outside, n - 1) := by
  have h₁ : ¬ n ≤ 1 := by omega
  have h₂ : n ≠ 2 := by omega
  simp [quietStep, h₁, h₂]

/-- **Values inside of elements are quiet.** -/
theorem quiet_value {depth : Nat} {t : Json.Tree} {w : List Char} (h : ValueText depth t w)
    {n : Nat} (hn : 2 ≤ n) : quiet (.outside, n) w = some (.outside, n) := by
  induction depth generalizing t w n with
  | zero => exact quiet_scalar h n
  | succ depth ih =>
    have inner : ∀ {x v}, ValueText depth x v →
        quiet (.outside, n + 1) v = some (.outside, n + 1) := fun hv => ih hv (by omega)
    rcases h with h | ⟨ts, u, -, rfl, hu⟩ | ⟨ms, u, -, rfl, hu⟩
    · exact quiet_scalar h n
    · have hclose := quietStep_close (n := n + 1) (by omega)
      change quiet (.outside, n + 1) _ = _
      simp [quiet_append, quiet_cons, quiet_body inner hu, hclose]
    · have hclose := quietStep_closeBrace (n := n + 1) (by omega)
      change quiet (.outside, n + 1) _ = _
      simp [quiet_append, quiet_cons, quiet_body (quiet_member inner) hu, hclose]

/-- **Elements that are no objects are quiet.** -/
theorem quiet_element {depth : Nat} {t : Json.Tree} {w : List Char} (h : ValueText depth t w)
    (ht : t.isObject = false) : quiet (.outside, 1) w = some (.outside, 1) := by
  cases depth with
  | zero => exact quiet_scalar h 1
  | succ depth =>
    rcases h with h | ⟨ts, u, -, rfl, hu⟩ | ⟨ms, u, rfl, -, -⟩
    · exact quiet_scalar h 1
    · have hclose := quietStep_close (n := 2) (by omega)
      change quiet (.outside, 2) _ = _
      simp [quiet_append, quiet_cons, quiet_body (fun hv => quiet_value hv (n := 2) le_rfl) hu,
        hclose]
    · cases ht

/-- **An element that is an object is quiet up to its closing brace.** -/
theorem quiet_object {depth : Nat} {t : Json.Tree} {w : List Char} (h : ValueText depth t w)
    (ht : t.isObject = true) :
    ∃ v, w = v ++ ['\x7d'] ∧ quiet (.outside, 1) v = some (.outside, 2) := by
  cases depth with
  | zero => cases h <;> cases ht
  | succ depth =>
    rcases h with h | ⟨ts, u, rfl, -, -⟩ | ⟨ms, u, -, rfl, hu⟩
    · cases h <;> cases ht
    · cases ht
    · exact ⟨'\x7b' :: u, rfl,
        quiet_body (quiet_member fun hv => quiet_value hv (n := 2) le_rfl) hu⟩

/-- A whole array is quiet if the scan does not take it for the outermost one. -/
theorem quiet_array {A : List Char} {xs : List Json} (h : ArrayText A xs) :
    quiet (.outside, 2) A = some (.outside, 2) := by
  obtain ⟨ts, u, rfl, hu, -⟩ := h.exists_body
  exact quiet_value (ValueText.array hu) le_rfl

end ThreatModel.Reply
