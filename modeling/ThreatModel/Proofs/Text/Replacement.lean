import Mathlib
import ThreatModel.Text.Search

/-!
# Replacing in a text

What `replace` does with a text, read from its front: an occurrence of the needle goes and the new
text comes (`replace_needle_append`), any other character stays (`replace_cons`). A proof about it
has these two cases (`needle_induction`).

A text without the needle stays (`replace_of_not_isInfix`), and the parts on both sides of a
character that is not in the needle are replaced in on their own (`replace_append_cons`,
`replace_append_of_border`). When every character has a weight, a replacement changes the weight of
the text by the same amount for every occurrence (`weight_replace`); so where the new text weighs
more than the needle, only a text without the needle keeps its weight (`weight_lt_replace`).
-/

namespace ThreatModel.Text

variable {needle new a b cs : List Char} {c : Char}

/-! ### From the front -/

@[simp] theorem replace_nil_needle (new cs : List Char) : replace [] new cs = cs := rfl

theorem replace_of_ne_nil (h : needle ≠ []) (new cs : List Char) :
    replace needle new cs = replaceFrom needle new 0 cs := by
  simp [replace, h]

theorem replaceFrom_skip (skip : Nat) (cs : List Char) :
    replaceFrom needle new skip cs = replaceFrom needle new 0 (cs.drop skip) := by
  induction cs generalizing skip with
  | nil => cases skip <;> simp [replaceFrom]
  | cons c r ih =>
    cases skip with
    | zero => rfl
    | succ skip => rw [replaceFrom, ih, List.drop_succ_cons]

@[simp] theorem replace_nil (needle new : List Char) : replace needle new [] = [] := by
  cases needle <;> rfl

theorem replace_needle_append (h : needle ≠ []) (new r : List Char) :
    replace needle new (needle ++ r) = new ++ replace needle new r := by
  obtain ⟨c, n, rfl⟩ := List.exists_cons_of_ne_nil h
  have hp : (c :: n).isPrefixOf (c :: (n ++ r)) = true :=
    List.isPrefixOf_iff_prefix.2 (List.prefix_append (c :: n) r)
  rw [replace_of_ne_nil h, replace_of_ne_nil h, List.cons_append, replaceFrom, if_pos hp,
    replaceFrom_skip]
  simp

theorem replace_cons {r : List Char} (h : ¬ needle <+: c :: r) (new : List Char) :
    replace needle new (c :: r) = c :: replace needle new r := by
  have hne : needle ≠ [] := by
    rintro rfl
    exact h List.nil_prefix
  rw [replace_of_ne_nil hne, replace_of_ne_nil hne, replaceFrom,
    if_neg fun hp => h (List.isPrefixOf_iff_prefix.1 hp)]

/-- A text is empty, starts with the needle, or has a first character at which no needle starts. -/
theorem needle_induction {motive : List Char → Prop} (h : needle ≠ []) (nil : motive [])
    (occurrence : ∀ r, motive r → motive (needle ++ r))
    (cons : ∀ c r, ¬ needle <+: c :: r → motive r → motive (c :: r)) (cs : List Char) :
    motive cs := by
  induction hn : cs.length using Nat.strong_induction_on generalizing cs with
  | _ n ih =>
    subst hn
    by_cases hp : needle <+: cs
    · obtain ⟨r, rfl⟩ := hp
      have hlen : r.length < (needle ++ r).length := by
        have := List.length_pos_of_ne_nil h
        rw [List.length_append]
        omega
      exact occurrence r (ih _ hlen r rfl)
    · cases cs with
      | nil => exact nil
      | cons c r => exact cons c r hp (ih _ (by simp) r rfl)

/-! ### Parts -/

theorem replace_of_not_isInfix (h : ¬ needle <:+: cs) (new : List Char) :
    replace needle new cs = cs := by
  induction cs with
  | nil => exact replace_nil needle new
  | cons c r ih =>
    rw [List.infix_cons_iff, not_or] at h
    rw [replace_cons h.1, ih h.2]

/-- A needle without the character `c` that starts in front of it also ends there. -/
theorem isPrefix_append_cons_iff (hc : c ∉ needle) :
    needle <+: a ++ c :: b ↔ needle <+: a := by
  refine ⟨fun h => ?_, fun h => h.trans (List.prefix_append a _)⟩
  rcases List.prefix_or_prefix_of_prefix h (List.prefix_append a (c :: b)) with hp | ⟨t, rfl⟩
  · exact hp
  · -- The needle goes on behind `a`: with `c`, unless nothing of it is left.
    rw [List.prefix_append_right_inj] at h
    cases t with
    | nil => simp
    | cons d t =>
      obtain ⟨rfl, -⟩ := List.cons_prefix_cons.1 h
      exact absurd (by simp) hc

theorem replace_append_cons (hc : c ∉ needle) (new a b : List Char) :
    replace needle new (a ++ c :: b) = replace needle new a ++ c :: replace needle new b := by
  by_cases hne : needle = []
  · subst hne
    rfl
  induction a using needle_induction hne with
  | nil =>
    have hp : ¬ needle <+: c :: b := fun h =>
      hne (List.prefix_nil.1 ((isPrefix_append_cons_iff hc).1 (by simpa using h)))
    rw [List.nil_append, replace_cons hp, replace_nil, List.nil_append]
  | occurrence r ih =>
    rw [List.append_assoc, replace_needle_append hne, ih, replace_needle_append hne,
      List.append_assoc]
  | cons d r hp ih =>
    have hp' : ¬ needle <+: d :: (r ++ c :: b) := fun h => hp ((isPrefix_append_cons_iff hc).1 h)
    rw [List.cons_append, replace_cons hp', ih, replace_cons hp, List.cons_append]

/-- No needle goes over a border at which `c`, a character that is not in it, stands. -/
theorem replace_append_of_border (hc : c ∉ needle) (h : a.getLast? = some c ∨ b.head? = some c)
    (new : List Char) :
    replace needle new (a ++ b) = replace needle new a ++ replace needle new b := by
  rcases h with h | h
  · obtain ⟨a, rfl⟩ := List.getLast?_eq_some_iff.1 h
    rw [List.append_assoc, List.singleton_append, replace_append_cons hc, replace_append_cons hc]
    simp
  · obtain ⟨b, rfl⟩ := List.head?_eq_some_iff.1 h
    rw [replace_append_cons hc, ← List.nil_append (c :: b), replace_append_cons hc new []]
    simp

/-! ### Weights -/

/-- The weight of a text: the weights of its characters together. -/
def weight (f : Char → ℤ) (cs : List Char) : ℤ := (cs.map f).sum

section Weight

variable (f : Char → ℤ)

@[simp] theorem weight_nil : weight f [] = 0 := rfl

@[simp] theorem weight_cons (c : Char) (r : List Char) : weight f (c :: r) = f c + weight f r :=
  List.sum_cons

@[simp] theorem weight_append (a b : List Char) :
    weight f (a ++ b) = weight f a + weight f b := by
  simp [weight]

/-- The weight changes with every occurrence by the same amount. -/
theorem weight_replace (h : needle ≠ []) (new cs : List Char) :
    ∃ k : ℕ, (needle <:+: cs → 0 < k) ∧
      weight f (replace needle new cs) =
        weight f cs + k * (weight f new - weight f needle) := by
  induction cs using needle_induction h with
  | nil => exact ⟨0, fun hi => absurd (List.infix_nil.1 hi) h, by simp⟩
  | occurrence r ih =>
    obtain ⟨k, -, hk⟩ := ih
    refine ⟨k + 1, fun _ => k.succ_pos, ?_⟩
    rw [replace_needle_append h, weight_append, weight_append, hk]
    push_cast
    ring
  | cons c r hp ih =>
    obtain ⟨k, hpos, hk⟩ := ih
    refine ⟨k, fun hi => hpos ((List.infix_cons_iff.1 hi).resolve_left hp), ?_⟩
    rw [replace_cons hp, weight_cons, weight_cons, hk]
    ring

variable {f}

theorem weight_le_replace (hw : weight f needle < weight f new) (cs : List Char) :
    weight f cs ≤ weight f (replace needle new cs) := by
  by_cases h : needle = []
  · subst h
    rfl
  · obtain ⟨k, -, hk⟩ := weight_replace f h new cs
    have : 0 ≤ (k : ℤ) * (weight f new - weight f needle) :=
      mul_nonneg (Int.natCast_nonneg k) (by omega)
    omega

theorem weight_lt_replace (h : needle ≠ []) (hw : weight f needle < weight f new)
    (hi : needle <:+: cs) : weight f cs < weight f (replace needle new cs) := by
  obtain ⟨k, hpos, hk⟩ := weight_replace f h new cs
  have : 0 < (k : ℤ) * (weight f new - weight f needle) :=
    mul_pos (Int.natCast_pos.2 (hpos hi)) (by omega)
  omega

end Weight

end ThreatModel.Text
