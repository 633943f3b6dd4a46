import ThreatModel.Proofs.Number.Value

/-!
# Operations keep the order of values

Rounding a larger quotient never gives a smaller value, and never a finite one where a smaller
quotient overflows (`Precision.nearest_mono`). Every operation is an exact one and one such
rounding, so it keeps the order of nonnegative values (`Binary.AtMost`) as long as the larger result
is finite. `Binary.MonotoneTo b f` says that `f` keeps the order of the values up to `b`; it asks
nothing but that `f b` is finite, and such functions compose (`Binary.MonotoneTo.comp`).

The exponent of a quotient grows with it (`Precision.exponentFor_mono`). Two quotients with one
exponent are rounded in the same units; with different exponents a power of two lies between them
(`Precision.roundedValue_mono`).
-/

namespace ThreatModel

open Binary (inUnits inUnits_div inUnits_pos)

/-! ### Quotients in units of a power of two -/

namespace Binary

variable {num den num' den' : ℕ}

theorem inUnits_le_iff (hden : 0 < den) (e : ℤ) (n : ℕ) :
    (inUnits num den e).1 ≤ n * (inUnits num den e).2 ↔ (num / den : ℚ) ≤ n * 2 ^ e := by
  rw [← div_le_iff₀ (two_zpow_pos e), ← inUnits_div, div_le_iff₀ (cast_inUnits_pos hden num e)]
  norm_cast

theorem le_inUnits_iff (hden : 0 < den) (e : ℤ) (n : ℕ) :
    n * (inUnits num den e).2 ≤ (inUnits num den e).1 ↔ (n * 2 ^ e : ℚ) ≤ num / den := by
  rw [← le_div_iff₀ (two_zpow_pos e), ← inUnits_div, le_div_iff₀ (cast_inUnits_pos hden num e)]
  norm_cast

/-- Quotients stay in order in one unit. -/
theorem inUnits_mono (hden : 0 < den) (hden' : 0 < den') (h : (num / den : ℚ) ≤ num' / den')
    (e : ℤ) :
    (inUnits num den e).1 * (inUnits num' den' e).2 ≤
      (inUnits num' den' e).1 * (inUnits num den e).2 := by
  have hle : (num / den / 2 ^ e : ℚ) ≤ num' / den' / 2 ^ e :=
    div_le_div_of_nonneg_right h (two_zpow_pos e).le
  rw [← inUnits_div, ← inUnits_div,
    div_le_div_iff₀ (cast_inUnits_pos hden num e) (cast_inUnits_pos hden' num' e)] at hle
  exact_mod_cast hle

end Binary

namespace Precision

variable (p : Precision) {num den num' den' : ℕ}

/-! ### The exponent of a quotient -/

/-- The rounded logarithms tell a quotient up to a factor of two to both sides. -/
theorem log2_bounds (hnum : 0 < num) (hden : 0 < den) :
    (2 : ℚ) ^ ((num.log2 : ℤ) - den.log2 - 1) ≤ num / den ∧
      (num / den : ℚ) < 2 ^ ((num.log2 : ℤ) - den.log2 + 1) := by
  have hd : (0 : ℚ) < den := by exact_mod_cast hden
  have hsplit (a b : ℤ) : (2 : ℚ) ^ (a + b) = 2 ^ a * 2 ^ b := zpow_add₀ (by norm_num) a b
  have hnumLow : (2 : ℚ) ^ (num.log2 : ℤ) ≤ num := by
    exact_mod_cast Nat.log2_self_le (Nat.ne_of_gt hnum)
  have hnumHigh : (num : ℚ) < 2 ^ ((num.log2 : ℤ) + 1) := by
    exact_mod_cast Nat.lt_log2_self (n := num)
  have hdenLow : (2 : ℚ) ^ (den.log2 : ℤ) ≤ den := by
    exact_mod_cast Nat.log2_self_le (Nat.ne_of_gt hden)
  have hdenHigh : (den : ℚ) < 2 ^ ((den.log2 : ℤ) + 1) := by
    exact_mod_cast Nat.lt_log2_self (n := den)
  constructor
  · rw [le_div_iff₀ hd]
    calc (2 : ℚ) ^ ((num.log2 : ℤ) - den.log2 - 1) * den
        ≤ 2 ^ ((num.log2 : ℤ) - den.log2 - 1) * 2 ^ ((den.log2 : ℤ) + 1) :=
          mul_le_mul_of_nonneg_left hdenHigh.le (two_zpow_pos _).le
      _ = 2 ^ (num.log2 : ℤ) := by rw [← hsplit]; congr 1; omega
      _ ≤ num := hnumLow
  · rw [div_lt_iff₀ hd]
    calc (num : ℚ) < 2 ^ ((num.log2 : ℤ) + 1) := hnumHigh
      _ = 2 ^ ((num.log2 : ℤ) - den.log2 + 1) * 2 ^ (den.log2 : ℤ) := by
          rw [← hsplit]; congr 1; omega
      _ ≤ 2 ^ ((num.log2 : ℤ) - den.log2 + 1) * den :=
          mul_le_mul_of_nonneg_left hdenLow (two_zpow_pos _).le

/-- An exponent at which a number has a mantissa of `bits` bits, or the smallest exponent for a
number too small for that. -/
structure Suits (x : ℚ) (e : ℤ) : Prop where
  least : p.minExponent ≤ e
  lt : x < 2 ^ (e + p.bits)
  full : e = p.minExponent ∨ 2 ^ (e + p.bits - 1) ≤ x

/-- A number in range gives its place to the smallest exponent if its own is below it. -/
theorem suits_max {x : ℚ} {e : ℤ} (hlow : (2 : ℚ) ^ (e + p.bits - 1) ≤ x)
    (hhigh : x < 2 ^ (e + p.bits)) : p.Suits x (max p.minExponent e) where
  least := le_max_left _ _
  lt := hhigh.trans_le (two_zpow_le (by omega))
  full := by
    by_cases h : e ≤ p.minExponent
    · exact .inl (max_eq_left h)
    · exact .inr (by rwa [max_eq_right (by omega)])

theorem suits_exponentFor (hnum : 0 < num) (hden : 0 < den) :
    p.Suits (num / den) (p.exponentFor num den) := by
  obtain ⟨hlow, hhigh⟩ := log2_bounds hnum hden
  set guess : ℤ := (num.log2 : ℤ) - den.log2 - p.bits with hguess
  -- The test is whether the quotient is below the middle of these bounds.
  have htest : (inUnits num den guess).1 / (inUnits num den guess).2 < Nat.pow 2 p.bits ↔
      (num / den : ℚ) < 2 ^ (guess + p.bits) := by
    rw [Nat.div_lt_iff_lt_mul (inUnits_pos hden num guess), ← not_le, ← not_le,
      Binary.le_inUnits_iff hden, zpow_add₀ (by norm_num : (2 : ℚ) ≠ 0), mul_comm]
    simp
  simp only [exponentFor, ← hguess]
  split_ifs with h
  · refine p.suits_max (le_trans (two_zpow_le ?_) hlow) (htest.1 h)
    omega
  · rw [htest, not_lt] at h
    refine p.suits_max (le_trans (two_zpow_le ?_) h) (hhigh.trans_le (two_zpow_le ?_))
    · omega
    · omega

/-- Larger numbers have larger exponents. -/
theorem Suits.mono {p : Precision} {x y : ℚ} {e f : ℤ} (hx : p.Suits x e) (hy : p.Suits y f)
    (h : x ≤ y) : e ≤ f := by
  rcases hx.full with he | he
  · rw [he]
    exact hy.least
  · have hlt : (2 : ℚ) ^ (e + p.bits - 1) < 2 ^ (f + p.bits) := (he.trans h).trans_lt hy.lt
    have := two_zpow_lt_iff.1 hlt
    omega

/-! ### Rounding to a mantissa -/

/-- The mantissa that a quotient is rounded to; it may take one bit more than there are. -/
def mantissaFor (num den : ℕ) : ℕ :=
  Rounding.halfEven (inUnits num den (p.exponentFor num den)).1
    (inUnits num den (p.exponentFor num den)).2

/-- The exponent of the rounded value: a mantissa of one bit more is halved. -/
def topExponent (num den : ℕ) : ℤ :=
  if p.mantissaFor num den = Nat.pow 2 p.bits then p.exponentFor num den + 1
  else p.exponentFor num den

/-- The mantissa of the rounded value. -/
def topMantissa (num den : ℕ) : ℕ :=
  if p.mantissaFor num den = Nat.pow 2 p.bits then Nat.pow 2 (p.bits - 1)
  else p.mantissaFor num den

theorem nearest_eq (s : Bool) (hnum : 0 < num) :
    p.nearest s num den =
      if p.maxExponent < p.topExponent num den then .infinite s
      else .finite s (p.topMantissa num den) (p.topExponent num den) := by
  rw [nearest, if_neg (Nat.ne_of_gt hnum), topExponent, topMantissa, mantissaFor]
  dsimp only
  split_ifs <;> rfl

/-- Halving a mantissa does not change the value. -/
theorem topMantissa_mul (hbits : 0 < p.bits) (num den : ℕ) :
    (p.topMantissa num den * 2 ^ p.topExponent num den : ℚ) =
      p.mantissaFor num den * 2 ^ p.exponentFor num den := by
  unfold topMantissa topExponent
  split_ifs with h
  · rw [h, Nat.pow_eq, Nat.pow_eq, zpow_add₀ (by norm_num), zpow_one]
    obtain ⟨n, hn⟩ := Nat.exists_eq_succ_of_ne_zero (Nat.ne_of_gt hbits)
    rw [hn, Nat.succ_sub_one, pow_succ]
    push_cast
    ring
  · rfl

theorem mantissaFor_le (hnum : 0 < num) (hden : 0 < den) :
    p.mantissaFor num den ≤ Nat.pow 2 p.bits := by
  refine Rounding.halfEven_le_of_le (inUnits_pos hden _ _) ?_
  rw [Binary.inUnits_le_iff hden, Nat.pow_eq]
  have hlt := (p.suits_exponentFor hnum hden).lt
  rw [add_comm, zpow_add₀ (by norm_num)] at hlt
  push_cast
  exact_mod_cast hlt.le

/-- Above the smallest exponent all bits of the mantissa are used. -/
theorem le_mantissaFor (hbits : 0 < p.bits) (hnum : 0 < num) (hden : 0 < den)
    (hfull : p.minExponent < p.exponentFor num den) :
    Nat.pow 2 (p.bits - 1) ≤ p.mantissaFor num den := by
  refine Rounding.le_halfEven_of_le (inUnits_pos hden _ _) ?_
  rw [Binary.le_inUnits_iff hden, Nat.pow_eq]
  rcases (p.suits_exponentFor hnum hden).full with h | h
  · omega
  · have hsum : p.exponentFor num den + p.bits - 1 =
        ((p.bits - 1 : ℕ) : ℤ) + p.exponentFor num den := by omega
    rw [hsum, zpow_add₀ (by norm_num)] at h
    push_cast
    exact_mod_cast h

/-- With one exponent, quotients are rounded in the same units. -/
theorem mantissaFor_mono (hden : 0 < den) (hden' : 0 < den') (h : (num / den : ℚ) ≤ num' / den')
    (he : p.exponentFor num den = p.exponentFor num' den') :
    p.mantissaFor num den ≤ p.mantissaFor num' den' := by
  rw [mantissaFor, mantissaFor, he]
  exact Rounding.halfEven_mono (inUnits_pos hden _ _) (inUnits_pos hden' _ _)
    (Binary.inUnits_mono hden hden' h _)

section

variable (hnum : 0 < num) (hden : 0 < den) (hnum' : 0 < num') (hden' : 0 < den')
  (h : (num / den : ℚ) ≤ num' / den')

include hnum hden hnum' hden' h

theorem exponentFor_mono : p.exponentFor num den ≤ p.exponentFor num' den' :=
  (p.suits_exponentFor hnum hden).mono (p.suits_exponentFor hnum' hden') h

theorem topExponent_mono : p.topExponent num den ≤ p.topExponent num' den' := by
  have hle := p.exponentFor_mono hnum hden hnum' hden' h
  have hbound := p.mantissaFor_le hnum' hden'
  rcases hle.lt_or_eq with hlt | heq
  · unfold topExponent
    split_ifs <;> omega
  · have hm := p.mantissaFor_mono hden hden' h heq
    unfold topExponent
    split_ifs <;> omega

/-- **Rounding keeps the order of quotients**, as long as no value is too large. -/
theorem roundedValue_mono (hbits : 0 < p.bits) :
    (p.mantissaFor num den * 2 ^ p.exponentFor num den : ℚ) ≤
      p.mantissaFor num' den' * 2 ^ p.exponentFor num' den' := by
  rcases (p.exponentFor_mono hnum hden hnum' hden' h).lt_or_eq with hlt | heq
  · have hleast := (p.suits_exponentFor hnum hden).least
    have hm : (p.mantissaFor num den : ℚ) ≤ 2 ^ (p.bits : ℤ) := by
      exact_mod_cast p.mantissaFor_le hnum hden
    have hm' : (2 : ℚ) ^ ((p.bits - 1 : ℕ) : ℤ) ≤ p.mantissaFor num' den' := by
      exact_mod_cast p.le_mantissaFor hbits hnum' hden' (hleast.trans_lt hlt)
    -- The power of two between the two numbers.
    calc (p.mantissaFor num den * 2 ^ p.exponentFor num den : ℚ)
        ≤ 2 ^ (p.bits : ℤ) * 2 ^ p.exponentFor num den :=
          mul_le_mul_of_nonneg_right hm (two_zpow_pos _).le
      _ = 2 ^ (p.bits + p.exponentFor num den) := (zpow_add₀ (by norm_num) _ _).symm
      _ ≤ 2 ^ (((p.bits - 1 : ℕ) : ℤ) + p.exponentFor num' den') := two_zpow_le (by omega)
      _ = 2 ^ ((p.bits - 1 : ℕ) : ℤ) * 2 ^ p.exponentFor num' den' := zpow_add₀ (by norm_num) _ _
      _ ≤ p.mantissaFor num' den' * 2 ^ p.exponentFor num' den' :=
          mul_le_mul_of_nonneg_right hm' (two_zpow_pos _).le
  · have hm : (p.mantissaFor num den : ℚ) ≤ p.mantissaFor num' den' := by
      exact_mod_cast p.mantissaFor_mono hden hden' h heq
    rw [heq]
    exact mul_le_mul_of_nonneg_right hm (two_zpow_pos _).le

end

end Precision

/-! ### Values in order -/

namespace Binary

variable {x y z : Binary}

theorem value_nonneg (h : x.Nonneg) : 0 ≤ x.value := by
  obtain ⟨m, e, rfl⟩ := h.exists_eq
  rw [value_finite]
  exact mul_nonneg (Nat.cast_nonneg m) (two_zpow_pos e).le

/-- Two nonnegative finite values, the first of which is not the larger one. -/
structure AtMost (x y : Binary) : Prop where
  left : x.Nonneg
  right : y.Nonneg
  le : x.value ≤ y.value

theorem AtMost.refl (h : x.Nonneg) : AtMost x x := ⟨h, h, le_refl _⟩

theorem AtMost.trans (h : AtMost x y) (h' : AtMost y z) : AtMost x z :=
  ⟨h.left, h'.right, h.le.trans h'.le⟩

end Binary

namespace Precision

open Binary (AtMost)

variable (p : Precision) {num den num' den' : ℕ} {x y x' y' : Binary}

/-- **Larger quotients have larger values**, and only larger ones overflow. -/
theorem nearest_mono (hbits : 0 < p.bits) (hden : 0 < den) (hden' : 0 < den')
    (h : (num / den : ℚ) ≤ num' / den') (hfin : (p.nearest false num' den').Nonneg) :
    AtMost (p.nearest false num den) (p.nearest false num' den') := by
  rcases Nat.eq_zero_or_pos num with hzero | hnum
  · have hx : p.nearest false num den = .finite false 0 p.minExponent := by
      rw [nearest, if_pos hzero, zero]
    refine ⟨hx ▸ Binary.nonneg_finite _ _, hfin, ?_⟩
    rw [hx, Binary.value_finite, Nat.cast_zero, zero_mul]
    exact Binary.value_nonneg hfin
  · have hnum' : 0 < num' := by
      have hpos : (0 : ℚ) < num / den := by positivity
      have hne : (num' : ℚ) ≠ 0 := by
        intro hz
        rw [hz, zero_div] at h
        exact absurd h (not_le.2 hpos)
      exact Nat.pos_of_ne_zero (by exact_mod_cast hne)
    have htop := p.topExponent_mono hnum hden hnum' hden' h
    have hmax : ¬ p.maxExponent < p.topExponent num' den' := by
      intro hlt
      rw [p.nearest_eq false hnum', if_pos hlt] at hfin
      cases hfin.1
    rw [p.nearest_eq false hnum, p.nearest_eq false hnum', if_neg hmax, if_neg (by omega)]
    refine ⟨Binary.nonneg_finite _ _, Binary.nonneg_finite _ _, ?_⟩
    rw [Binary.value_finite, Binary.value_finite, p.topMantissa_mul hbits, p.topMantissa_mul hbits]
    exact p.roundedValue_mono hnum hden hnum' hden' h hbits

theorem ofNat_mono (hbits : 0 < p.bits) {m n : ℕ} (h : m ≤ n) (hfin : (p.ofNat n).Nonneg) :
    AtMost (p.ofNat m) (p.ofNat n) := by
  refine p.nearest_mono hbits Nat.one_pos Nat.one_pos ?_ hfin
  rw [Nat.cast_one, div_one, div_one]
  exact_mod_cast h

theorem mul_mono (hbits : 0 < p.bits) (h : AtMost x y) (h' : AtMost x' y')
    (hfin : (p.mul y y').Nonneg) : AtMost (p.mul x x') (p.mul y y') := by
  have hle : x.value * x'.value ≤ y.value * y'.value :=
    mul_le_mul h.le h'.le (Binary.value_nonneg h'.left) (Binary.value_nonneg h.right)
  obtain ⟨m, e, rfl⟩ := h.left.exists_eq
  obtain ⟨n, f, rfl⟩ := h.right.exists_eq
  obtain ⟨m', e', rfl⟩ := h'.left.exists_eq
  obtain ⟨n', f', rfl⟩ := h'.right.exists_eq
  have hvalue (a b : ℕ) (i j : ℤ) :
      ((a * b * Nat.pow 2 (i + j).toNat : ℕ) / (Nat.pow 2 (-(i + j)).toNat : ℕ) : ℚ) =
        a * 2 ^ i * (b * 2 ^ j) := by
    rw [mul_mul_mul_comm, ← zpow_add₀ (by norm_num), two_zpow_eq_div]
    push_cast
    ring
  refine p.nearest_mono hbits (Nat.pow_pos (by decide)) (Nat.pow_pos (by decide)) ?_ hfin
  rw [hvalue, hvalue]
  simpa only [Binary.value_finite] using hle

theorem div_mono (hbits : 0 < p.bits) (h : AtMost x y) {k : Binary} (hk : k.Nonneg)
    (hpos : 0 < k.value) (hfin : (p.div y k).Nonneg) : AtMost (p.div x k) (p.div y k) := by
  have hle : x.value / k.value ≤ y.value / k.value := div_le_div_of_nonneg_right h.le hpos.le
  obtain ⟨a, i, rfl⟩ := h.left.exists_eq
  obtain ⟨b, j, rfl⟩ := h.right.exists_eq
  obtain ⟨n, f, rfl⟩ := hk.exists_eq
  have hn : 0 < n := by
    rw [Binary.value_finite] at hpos
    exact_mod_cast pos_of_mul_pos_left hpos (two_zpow_pos f).le
  have hvalue (a : ℕ) (i : ℤ) :
      ((a * Nat.pow 2 (i - f).toNat : ℕ) / (n * Nat.pow 2 (f - i).toNat : ℕ) : ℚ) =
        a * 2 ^ i / (n * 2 ^ f) := by
    rw [mul_div_mul_comm, ← zpow_sub₀ (by norm_num), two_zpow_eq_div, neg_sub]
    push_cast
    rw [mul_div_mul_comm]
  simp only [div, if_neg (Nat.ne_of_gt hn)] at hfin ⊢
  refine p.nearest_mono hbits (Nat.mul_pos hn (Nat.pow_pos (by decide)))
    (Nat.mul_pos hn (Nat.pow_pos (by decide))) ?_ hfin
  rw [hvalue, hvalue]
  simpa only [Binary.value_finite] using hle

theorem round_mono (hbits : 0 < p.bits) (h : AtMost x y) (hfin : (p.round y).Nonneg) :
    AtMost (p.round x) (p.round y) := by
  have hle := h.le
  obtain ⟨a, i, rfl⟩ := h.left.exists_eq
  obtain ⟨b, j, rfl⟩ := h.right.exists_eq
  refine p.nearest_mono hbits Nat.one_pos Nat.one_pos ?_ hfin
  rw [Binary.value_finite, Binary.value_finite, two_zpow_eq_div, two_zpow_eq_div, ← mul_div_assoc,
    ← mul_div_assoc, div_le_div_iff₀ (cast_two_pow_pos _) (cast_two_pow_pos _)] at hle
  rw [Nat.cast_one, div_one, div_one]
  exact_mod_cast Rounding.halfAway_mono (Nat.pow_pos (by decide)) (Nat.pow_pos (by decide))
    (by exact_mod_cast hle)

end Precision

/-! ### Functions that keep the order -/

namespace Binary

variable {b c : Binary} {f g : Binary → Binary}

/-- A function keeps the order of the nonnegative values up to a bound. -/
def MonotoneTo (b : Binary) (f : Binary → Binary) : Prop :=
  ∀ ⦃x y⦄, AtMost x y → AtMost y b → AtMost (f x) (f y)

/-- It is enough that no value overflows at the bound. -/
theorem MonotoneTo.of_nonneg (h : ∀ ⦃x y⦄, AtMost x y → (f y).Nonneg → AtMost (f x) (f y))
    (hb : (f b).Nonneg) : MonotoneTo b f := by
  intro x y hxy hy
  exact h hxy (h hy hb).left

theorem MonotoneTo.mono (h : MonotoneTo b f) (hc : AtMost c b) : MonotoneTo c f := by
  intro x y hxy hy
  exact h hxy (hy.trans hc)

theorem MonotoneTo.comp (hg : MonotoneTo c g) (hf : MonotoneTo b f) (hc : f b = c) :
    MonotoneTo b fun x => g (f x) := by
  intro x y hxy hy
  have hbound : AtMost (f y) c := hc ▸ hf hy (.refl hy.right)
  exact hg (hf hxy hy) hbound

end Binary

namespace Precision

open Binary (MonotoneTo)

variable (p : Precision) {b k : Binary}

theorem monotoneTo_mul (hbits : 0 < p.bits) (hk : k.Nonneg) (h : (p.mul b k).Nonneg) :
    MonotoneTo b fun x => p.mul x k :=
  .of_nonneg (fun _ _ hxy => p.mul_mono hbits hxy (.refl hk)) h

theorem monotoneTo_div (hbits : 0 < p.bits) (hk : k.Nonneg) (hpos : 0 < k.value)
    (h : (p.div b k).Nonneg) : MonotoneTo b fun x => p.div x k :=
  .of_nonneg (fun _ _ hxy => p.div_mono hbits hxy hk hpos) h

theorem monotoneTo_round (hbits : 0 < p.bits) (h : (p.round b).Nonneg) : MonotoneTo b p.round :=
  .of_nonneg (fun _ _ => p.round_mono hbits) h

end Precision

end ThreatModel
