import ThreatModel.Proofs.Number.Digits
import ThreatModel.Proofs.Number.Monotone

/-!
# The shortest decimal of a number of hundredths

`Precision.shortest_hundredths` : of the double nearest to a number of hundredths with at most
fifteen digits, the shortest decimal is that number of hundredths.

A decimal reads back as a value if it lies in the interval of numbers that are rounded to it
(`Precision.Covers`). A quotient lies in the interval of its own rounding (`covers_of_nearest`), the
search on one grid finds a point of the interval if the grid has one (`exists_onGrid_of_covers`),
and the interval is too short for two points of a grid of hundredths
(`Covers.abs_sub_le`). So the search from coarse to fine grids ends at the hundredths, if
not before with the same number.
-/

namespace ThreatModel

/-! ### Rounding to the nearest whole number -/

namespace Rounding

variable {a b : ℕ}

theorem abs_div_sub (hb : 0 < b) (n : ℕ) : |(a / b - n : ℚ)| = |(a - n * b : ℚ)| / b := by
  have hb' : (0 : ℚ) < b := by exact_mod_cast hb
  have hsub : (a / b - n : ℚ) = (a - n * b) / b := by field_simp
  rw [hsub, abs_div, abs_of_pos hb']

/-- A quotient is rounded by at most half a unit. -/
theorem halfEven_close (hb : 0 < b) : |(a / b - halfEven a b : ℚ)| ≤ 1 / 2 := by
  have hdiv := Nat.div_add_mod' a b
  have hmod := Nat.mod_lt a hb
  have hends : 2 * (halfEven a b * b) ≤ 2 * a + b ∧ 2 * a ≤ 2 * (halfEven a b * b) + b := by
    simp only [halfEven, Bool.or_eq_true, Bool.and_eq_true, decide_eq_true_eq, beq_iff_eq]
    split_ifs
    · constructor <;> omega
    · rw [Nat.add_mul, Nat.one_mul]
      constructor <;> omega
  have hlow : (2 * (halfEven a b * b) : ℚ) ≤ 2 * a + b := by exact_mod_cast hends.1
  have hhigh : (2 * a : ℚ) ≤ 2 * (halfEven a b * b) + b := by exact_mod_cast hends.2
  rw [abs_div_sub hb, div_le_iff₀ (by exact_mod_cast hb), abs_le]
  constructor <;> linarith

/-- A quotient is rounded to an odd number by less than half a unit. -/
theorem halfEven_close_of_odd (hb : 0 < b) (hodd : halfEven a b % 2 = 1) :
    |(a / b - halfEven a b : ℚ)| < 1 / 2 := by
  have hdiv := Nat.div_add_mod' a b
  have hmod := Nat.mod_lt a hb
  have hends : 2 * (halfEven a b * b) < 2 * a + b ∧ 2 * a < 2 * (halfEven a b * b) + b := by
    simp only [halfEven, Bool.or_eq_true, Bool.and_eq_true, decide_eq_true_eq, beq_iff_eq]
      at hodd ⊢
    split_ifs at hodd ⊢
    · constructor <;> omega
    · rw [Nat.add_mul, Nat.one_mul]
      constructor <;> omega
  have hlow : (2 * (halfEven a b * b) : ℚ) < 2 * a + b := by exact_mod_cast hends.1
  have hhigh : (2 * a : ℚ) < 2 * (halfEven a b * b) + b := by exact_mod_cast hends.2
  rw [abs_div_sub hb, div_lt_iff₀ (by exact_mod_cast hb), abs_lt]
  constructor <;> linarith

end Rounding

theorem ten_zpow_pos (k : ℤ) : 0 < (10 : ℚ) ^ k := zpow_pos (by norm_num) k

theorem ten_zpow_eq_div (k : ℤ) :
    (10 : ℚ) ^ k = (Nat.pow 10 k.toNat : ℕ) / (Nat.pow 10 (-k).toNat : ℕ) := by
  obtain ⟨n, rfl | rfl⟩ := Int.eq_nat_or_neg k
  · simp
  · simp

namespace Precision

open Binary (inUnits inUnits_div inUnits_pos)

variable (p : Precision) {m c : ℕ} {e k : ℤ} {q r : ℚ}

/-! ### Numbers that read back -/

/-- The lower end of the interval of numbers that read back as `m · 2 ^ e`, in quarters of a unit:
below a power of two the units are halved. -/
def lowEnd (m : ℕ) (e : ℤ) : ℕ :=
  if m = Nat.pow 2 (p.bits - 1) && decide (p.minExponent < e) then 4 * m - 1 else 4 * m - 2

/-- The numbers that read back as `m · 2 ^ e`. The ends of the interval do if the mantissa is even.
-/
structure Covers (m : ℕ) (e : ℤ) (q : ℚ) : Prop where
  low : (p.lowEnd m e : ℚ) * 2 ^ (e - 2) ≤ q
  high : q ≤ ((4 * m + 2 : ℕ) : ℚ) * 2 ^ (e - 2)
  strict : m % 2 = 1 →
    (p.lowEnd m e : ℚ) * 2 ^ (e - 2) < q ∧ q < ((4 * m + 2 : ℕ) : ℚ) * 2 ^ (e - 2)

theorem four_mul_le_lowEnd_add (m : ℕ) (e : ℤ) : 4 * m ≤ p.lowEnd m e + 2 := by
  unfold lowEnd
  split_ifs <;> omega

theorem lowEnd_le (m : ℕ) (e : ℤ) : p.lowEnd m e ≤ 4 * m := by
  unfold lowEnd
  split_ifs <;> omega

/-- Between two numbers that read back as one value there is at most one unit. -/
theorem Covers.abs_sub_le {p : Precision} (hq : p.Covers m e q) (hr : p.Covers m e r) :
    |q - r| ≤ 2 ^ e := by
  have hends : ((4 * m + 2 : ℕ) : ℚ) ≤ p.lowEnd m e + 4 := by
    exact_mod_cast Nat.add_le_add_right (p.four_mul_le_lowEnd_add m e) 2
  have hunit : (2 : ℚ) ^ e = 4 * 2 ^ (e - 2) := by
    rw [zpow_sub₀ (by norm_num)]
    ring
  have hwidth := mul_le_mul_of_nonneg_right hends (two_zpow_pos (e - 2)).le
  rw [abs_sub_le_iff, hunit]
  constructor
  · linarith [hq.high, hr.low]
  · linarith [hr.high, hq.low]

/-- A value reads back as itself. -/
theorem covers_self (m : ℕ) (e : ℤ) : p.Covers m e (m * 2 ^ e) := by
  have hunit : (m * 2 ^ e : ℚ) = (4 * m : ℕ) * 2 ^ (e - 2) := by
    rw [zpow_sub₀ (by norm_num)]
    push_cast
    ring
  have hpos := two_zpow_pos (e - 2)
  have hlow : (p.lowEnd m e : ℚ) ≤ (4 * m : ℕ) := by exact_mod_cast p.lowEnd_le m e
  have hhigh : ((4 * m : ℕ) : ℚ) < (4 * m + 2 : ℕ) := by
    exact_mod_cast Nat.lt_add_of_pos_right (by decide)
  rw [hunit]
  refine ⟨mul_le_mul_of_nonneg_right hlow hpos.le, mul_le_mul_of_nonneg_right hhigh.le hpos.le,
    fun hodd => ⟨mul_lt_mul_of_pos_right ?_ hpos, mul_lt_mul_of_pos_right hhigh hpos⟩⟩
  have hlt : p.lowEnd m e < 4 * m := by
    unfold lowEnd
    split_ifs <;> omega
  exact_mod_cast hlt

/-- What lies between two numbers that read back as a value does so, too. -/
theorem Covers.between {p : Precision} {x : ℚ} (hq : p.Covers m e q) (hr : p.Covers m e r)
    (hqx : q ≤ x) (hxr : x ≤ r) : p.Covers m e x where
  low := hq.low.trans hqx
  high := hxr.trans hr.high
  strict hodd := ⟨(hq.strict hodd).1.trans_le hqx, hxr.trans_lt (hr.strict hodd).2⟩

/-! ### One grid -/

/-- The two sides of the quotient of a grid, in a unit of their own. -/
theorem exists_gridRatio_eq (k f : ℤ) :
    ∃ t : ℚ, 0 < t ∧ ((gridRatio k f).1 : ℚ) = 10 ^ k * t ∧
      ((gridRatio k f).2 : ℚ) = 2 ^ f * t := by
  refine ⟨(Nat.pow 10 (-k).toNat : ℕ) * (Nat.pow 2 (-f).toNat : ℕ), ?_, ?_, ?_⟩
  · exact_mod_cast Nat.mul_pos (Nat.pow_pos (by decide)) (Nat.pow_pos (by decide))
  · rw [ten_zpow_eq_div, gridRatio]
    push_cast
    field_simp
  · rw [two_zpow_eq_div, gridRatio]
    push_cast
    field_simp

/-- Whether a multiple of `10 ^ k` reads back as `m · 2 ^ e`. -/
def inside (m : ℕ) (e k : ℤ) (c : ℕ) : Bool :=
  let (a, b) := gridRatio k (e - 2)
  if m % 2 = 0 then p.lowEnd m e * b ≤ c * a && c * a ≤ (4 * m + 2) * b
  else p.lowEnd m e * b < c * a && c * a < (4 * m + 2) * b

theorem inside_iff : p.inside m e k c = true ↔ p.Covers m e (c * 10 ^ k) := by
  obtain ⟨t, ht, ha, hb⟩ := exists_gridRatio_eq k (e - 2)
  have hle (x y : ℕ) : x * (gridRatio k (e - 2)).2 ≤ y * (gridRatio k (e - 2)).1 ↔
      (x * 2 ^ (e - 2) : ℚ) ≤ y * 10 ^ k := by
    rw [← mul_le_mul_iff_left₀ ht, mul_assoc, mul_assoc, ← ha, ← hb]
    norm_cast
  have hge (x y : ℕ) : y * (gridRatio k (e - 2)).1 ≤ x * (gridRatio k (e - 2)).2 ↔
      (y * 10 ^ k : ℚ) ≤ x * 2 ^ (e - 2) := by
    rw [← mul_le_mul_iff_left₀ ht, mul_assoc, mul_assoc, ← ha, ← hb]
    norm_cast
  unfold inside
  dsimp only
  rcases Nat.mod_two_eq_zero_or_one m with hm | hm
  · rw [if_pos hm, Bool.and_eq_true, decide_eq_true_eq, decide_eq_true_eq, hle, hge]
    exact ⟨fun h => ⟨h.1, h.2, fun hodd => by omega⟩, fun h => ⟨h.low, h.high⟩⟩
  · rw [if_neg (by omega), Bool.and_eq_true, decide_eq_true_eq, decide_eq_true_eq, ← not_le,
      ← not_le, hle, hge, not_le, not_le]
    exact ⟨fun h => ⟨h.1.le, h.2.le, fun _ => h⟩, fun h => h.strict hm⟩

theorem onGrid_eq (m : ℕ) (e k : ℤ) :
    p.onGrid m e k =
      let (a, b) := gridRatio k (e - 2)
      let c := 4 * m * b / a
      let below := 4 * m * b - c * a
      let above := (c + 1) * a - 4 * m * b
      match p.inside m e k c, p.inside m e k (c + 1) with
      | true, true => some (if below < above || (below == above && c % 2 == 0) then c else c + 1)
      | true, false => some c
      | false, true => some (c + 1)
      | false, false => none := rfl

/-- What is found on a grid reads back. -/
theorem covers_of_onGrid (h : p.onGrid m e k = some c) : p.Covers m e (c * 10 ^ k) := by
  rw [← inside_iff]
  rw [onGrid_eq] at h
  dsimp only at h
  split at h
  next h₁ h₂ =>
    cases h
    split_ifs
    · exact h₁
    · exact h₂
  next h₁ h₂ =>
    cases h
    exact h₁
  next h₁ h₂ =>
    cases h
    exact h₂
  next => cases h

/-- The number of steps of a grid up to a value. -/
def stepsTo (m : ℕ) (e k : ℤ) : ℕ := 4 * m * (gridRatio k (e - 2)).2 / (gridRatio k (e - 2)).1

/-- A value stands between two neighbours on a grid. -/
theorem stepsTo_bounds (m : ℕ) (e k : ℤ) :
    (stepsTo m e k * 10 ^ k : ℚ) ≤ m * 2 ^ e ∧
      (m * 2 ^ e : ℚ) ≤ ((stepsTo m e k + 1 : ℕ) : ℚ) * 10 ^ k := by
  obtain ⟨t, ht, ha, hb⟩ := exists_gridRatio_eq k (e - 2)
  have hpos : 0 < (gridRatio k (e - 2)).1 := by
    have : (0 : ℚ) < (gridRatio k (e - 2)).1 := ha ▸ mul_pos (ten_zpow_pos k) ht
    exact_mod_cast this
  have hvalue : (m * 2 ^ e : ℚ) * t = ((4 * m * (gridRatio k (e - 2)).2 : ℕ) : ℚ) := by
    push_cast
    rw [hb, zpow_sub₀ (by norm_num)]
    ring
  constructor
  · rw [← mul_le_mul_iff_left₀ ht, hvalue, mul_assoc, ← ha]
    exact_mod_cast Nat.div_mul_le_self _ _
  · rw [← mul_le_mul_iff_left₀ ht, hvalue, mul_assoc ((stepsTo m e k + 1 : ℕ) : ℚ), ← ha]
    exact_mod_cast (Nat.lt_mul_of_div_lt (Nat.lt_succ_self _) hpos).le

/-- **If a multiple of `10 ^ k` reads back, one is found**: a neighbour of the value on the grid
reads back, too. -/
theorem exists_onGrid_of_covers (h : p.Covers m e (c * 10 ^ k)) : ∃ d, p.onGrid m e k = some d := by
  obtain ⟨hbelow, habove⟩ := stepsTo_bounds m e k
  have hstep {x y : ℕ} (hxy : x ≤ y) : (x * 10 ^ k : ℚ) ≤ y * 10 ^ k :=
    mul_le_mul_of_nonneg_right (by exact_mod_cast hxy) (ten_zpow_pos k).le
  have hin : p.inside m e k (stepsTo m e k) = true ∨
      p.inside m e k (stepsTo m e k + 1) = true := by
    rw [inside_iff, inside_iff]
    rcases Nat.lt_or_ge (stepsTo m e k) c with hc | hc
    · exact .inr ((p.covers_self m e).between h habove (hstep hc))
    · exact .inl (h.between (p.covers_self m e) (hstep hc) hbelow)
  rw [onGrid_eq]
  dsimp only
  split
  next => exact ⟨_, rfl⟩
  next => exact ⟨_, rfl⟩
  next => exact ⟨_, rfl⟩
  next h₁ h₂ =>
    rcases hin with hin | hin
    · exact absurd (hin.symm.trans h₁) (by decide)
    · exact absurd (hin.symm.trans h₂) (by decide)

/-! ### Rounded quotients -/

variable {num den : ℕ}

/-- The error of rounding, in units. -/
theorem abs_sub_mantissaFor (num den : ℕ) :
    |(num / den - p.mantissaFor num den * 2 ^ p.exponentFor num den : ℚ)| =
      |((inUnits num den (p.exponentFor num den)).1 / (inUnits num den (p.exponentFor num den)).2 -
        p.mantissaFor num den : ℚ)| * 2 ^ p.exponentFor num den := by
  have hpos := two_zpow_pos (p.exponentFor num den)
  rw [inUnits_div, ← abs_of_pos hpos, ← abs_mul, abs_of_pos hpos, sub_mul,
    div_mul_cancel₀ _ hpos.ne']

/-- A quotient is rounded by at most half a unit. -/
theorem mantissaFor_close (hden : 0 < den) :
    |(num / den - p.mantissaFor num den * 2 ^ p.exponentFor num den : ℚ)| ≤
      1 / 2 * 2 ^ p.exponentFor num den := by
  rw [p.abs_sub_mantissaFor]
  exact mul_le_mul_of_nonneg_right (Rounding.halfEven_close (inUnits_pos hden _ _))
    (two_zpow_pos _).le

/-- A quotient is rounded to an odd mantissa by less than half a unit. -/
theorem mantissaFor_close_of_odd (hden : 0 < den) (hodd : p.mantissaFor num den % 2 = 1) :
    |(num / den - p.mantissaFor num den * 2 ^ p.exponentFor num den : ℚ)| <
      1 / 2 * 2 ^ p.exponentFor num den := by
  rw [p.abs_sub_mantissaFor]
  exact mul_lt_mul_of_pos_right (Rounding.halfEven_close_of_odd (inUnits_pos hden _ _) hodd)
    (two_zpow_pos _)

/-- The interval from half a unit below a mantissa to half a unit above it. -/
theorem covers_of_close (hlow : p.lowEnd m e = 4 * m - 2) (hclose : |q - m * 2 ^ e| ≤ 1 / 2 * 2 ^ e)
    (hodd : m % 2 = 1 → |q - m * 2 ^ e| < 1 / 2 * 2 ^ e) (hq : 0 ≤ q) : p.Covers m e q := by
  have hunit : (2 : ℚ) ^ e = 4 * 2 ^ (e - 2) := by
    rw [zpow_sub₀ (by norm_num)]
    ring
  rw [hunit] at hclose hodd
  obtain ⟨hclose₁, hclose₂⟩ := abs_le.1 hclose
  refine ⟨?_, ?_, fun h => ?_⟩
  · rw [hlow]
    rcases Nat.eq_zero_or_pos m with rfl | hm
    · simpa using hq
    · rw [Nat.cast_sub (by omega)]
      push_cast
      linarith
  · push_cast
    linarith
  · obtain ⟨hodd₁, hodd₂⟩ := abs_lt.1 (hodd h)
    rw [hlow, Nat.cast_sub (by omega)]
    push_cast
    constructor <;> linarith

/-- The interval from a quarter of a unit below an even mantissa to half a unit above it. -/
theorem covers_of_even (heven : m % 2 = 0) (hm : 0 < m) (hlow : m * 2 ^ e - 1 / 4 * 2 ^ e ≤ q)
    (hhigh : q ≤ m * 2 ^ e + 1 / 2 * 2 ^ e) : p.Covers m e q := by
  have hunit : (2 : ℚ) ^ e = 4 * 2 ^ (e - 2) := by
    rw [zpow_sub₀ (by norm_num)]
    ring
  have hend : (p.lowEnd m e : ℚ) + 1 ≤ 4 * m := by
    have hnat : p.lowEnd m e + 1 ≤ 4 * m := by
      unfold lowEnd
      split_ifs <;> omega
    exact_mod_cast hnat
  have hwidth := mul_le_mul_of_nonneg_right hend (two_zpow_pos (e - 2)).le
  rw [hunit] at hlow hhigh
  refine ⟨?_, ?_, fun hodd => by omega⟩
  · linarith
  · push_cast
    linarith

theorem two_pow_pred_bits (hbits : 2 ≤ p.bits) :
    Nat.pow 2 (p.bits - 1) % 2 = 0 ∧ 0 < Nat.pow 2 (p.bits - 1) := by
  obtain ⟨n, hn⟩ := Nat.exists_eq_add_of_le hbits
  rw [hn, Nat.pow_eq, show 2 + n - 1 = n + 1 by omega, pow_succ]
  exact ⟨Nat.mul_mod_left _ _, by positivity⟩

/-- A quotient that is rounded up to a power of two is taken in units of twice the size. -/
theorem covers_of_top (hbits : 2 ≤ p.bits) (hden : 0 < den)
    (htop : p.mantissaFor num den = Nat.pow 2 p.bits) :
    p.Covers (p.topMantissa num den) (p.topExponent num den) (num / den) := by
  obtain ⟨heven, hpos⟩ := p.two_pow_pred_bits hbits
  have hclose : |(num / den - _ : ℚ)| ≤ _ := p.mantissaFor_close hden
  obtain ⟨hbelow, habove⟩ := abs_le.1 hclose
  have hvalue := p.topMantissa_mul (by omega) num den
  have hunit : (2 : ℚ) ^ p.topExponent num den = 2 * 2 ^ p.exponentFor num den := by
    rw [topExponent, if_pos htop, zpow_add₀ (by norm_num), zpow_one, mul_comm]
  have hm : p.topMantissa num den = Nat.pow 2 (p.bits - 1) := if_pos htop
  refine p.covers_of_even (hm ▸ heven) (hm ▸ hpos) ?_ ?_
  · rw [hvalue, hunit]
    linarith
  · rw [hvalue, hunit]
    linarith

/-- A quotient whose mantissa is the smallest of its exponent is not rounded up. -/
theorem covers_of_smallest (hbits : 2 ≤ p.bits) (hnum : 0 < num) (hden : 0 < den)
    (hsmall : p.mantissaFor num den = Nat.pow 2 (p.bits - 1))
    (he : p.minExponent < p.exponentFor num den) :
    p.Covers (p.mantissaFor num den) (p.exponentFor num den) (num / den) := by
  obtain ⟨heven, hpos⟩ := p.two_pow_pred_bits hbits
  have hclose : |(num / den - _ : ℚ)| ≤ _ := p.mantissaFor_close hden
  have habove := (abs_le.1 hclose).2
  have hfull : (p.mantissaFor num den * 2 ^ p.exponentFor num den : ℚ) ≤ num / den := by
    have hpow : ((p.bits - 1 : ℕ) : ℤ) + p.exponentFor num den =
        p.exponentFor num den + p.bits - 1 := by omega
    rw [hsmall, Nat.pow_eq, Nat.cast_pow, Nat.cast_ofNat, ← zpow_natCast,
      ← zpow_add₀ (by norm_num), hpow]
    exact (p.suits_exponentFor hnum hden).full.resolve_left (by omega)
  have hunit := two_zpow_pos (p.exponentFor num den)
  exact p.covers_of_even (hsmall ▸ heven) (hsmall ▸ hpos) (by linarith) (by linarith)

/-- **A quotient reads back as the value that it is rounded to.** -/
theorem covers_of_nearest (hbits : 2 ≤ p.bits) (hnum : 0 < num) (hden : 0 < den)
    (h : p.nearest false num den = .finite false m e) : p.Covers m e (num / den) := by
  rw [p.nearest_eq false hnum] at h
  split_ifs at h with hmax
  obtain ⟨-, rfl, rfl⟩ := Binary.finite.inj h
  by_cases htop : p.mantissaFor num den = Nat.pow 2 p.bits
  · exact p.covers_of_top hbits hden htop
  · have hm : p.topMantissa num den = p.mantissaFor num den := if_neg htop
    have he : p.topExponent num den = p.exponentFor num den := if_neg htop
    rw [hm, he]
    by_cases hsmall : p.mantissaFor num den = Nat.pow 2 (p.bits - 1) ∧
        p.minExponent < p.exponentFor num den
    · exact p.covers_of_smallest hbits hnum hden hsmall.1 hsmall.2
    · have hlow : p.lowEnd (p.mantissaFor num den) (p.exponentFor num den) =
          4 * p.mantissaFor num den - 2 := by
        rw [lowEnd, if_neg (by simpa using hsmall)]
      exact p.covers_of_close hlow (p.mantissaFor_close hden) (p.mantissaFor_close_of_odd hden)
        (by positivity)

/-! ### Hundredths -/

/-- The search for the shortest decimal stops at a grid that it tries, or at a coarser one. -/
theorem exists_shortest_of_onGrid (hm : m ≠ 0) (hk : p.onGrid m e k = some c)
    (htop : k ≤ decimalCeiling m e) (hlast : decimalCeiling m e ≤ k + 20) :
    ∃ d j, p.shortest m e = (d, j) ∧ p.onGrid m e j = some d ∧ k ≤ j := by
  set tries := (List.range 21).map fun i : ℕ => decimalCeiling m e - (i : ℤ) with htries
  have hmem : k ∈ tries :=
    List.mem_map.2 ⟨(decimalCeiling m e - k).toNat, List.mem_range.2 (by omega), by omega⟩
  have hsorted : tries.Pairwise (· > ·) := by
    refine List.pairwise_map.2 (List.pairwise_lt_range.imp fun h => ?_)
    omega
  rw [shortest, if_neg hm]
  dsimp only
  rw [← htries]
  cases hfind : tries.findSome? fun k => (p.onGrid m e k).map (·, k) with
  | none =>
    have := List.findSome?_eq_none_iff.1 hfind k hmem
    rw [hk] at this
    cases this
  | some found =>
    obtain ⟨l₁, j, l₂, hsplit, hj, hbefore⟩ := List.findSome?_eq_some_iff.1 hfind
    obtain ⟨d, hd, rfl⟩ := Option.map_eq_some_iff.1 hj
    refine ⟨d, j, rfl, hd, ?_⟩
    rw [hsplit] at hmem hsorted
    rcases List.mem_append.1 hmem with h | h
    · have := hbefore k h
      rw [hk] at this
      cases this
    · rcases List.mem_cons.1 h with rfl | h
      · exact le_refl _
      · exact (List.rel_of_pairwise_cons (List.pairwise_append.1 hsorted).2.1 h).le

/-- A number of hundredths of at most fifteen digits. -/
def IsHundredths (n : ℕ) : Prop := 0 < n ∧ n < 10 ^ 15

variable {n : ℕ}

/-- The units of such a number are far below a hundredth. -/
theorem topExponent_hundredths_le (h : IsHundredths n) : double.topExponent n 100 ≤ -8 := by
  have hsuits : double.Suits (n / 100) (double.exponentFor n 100) := by
    exact_mod_cast double.suits_exponentFor h.1 (by decide : 0 < 100)
  have hlt : (n / 100 : ℚ) < 2 ^ (44 : ℤ) := by
    have : (n : ℚ) < 10 ^ 15 := by exact_mod_cast h.2
    norm_num
    linarith
  have hexponent : double.exponentFor n 100 ≤ -9 := by
    rcases hsuits.full with hfull | hfull
    · rw [hfull]
      decide
    · have := two_zpow_lt_iff.1 (hfull.trans_lt hlt)
      change double.exponentFor n 100 + 53 - 1 < 44 at this
      omega
  unfold topExponent
  split_ifs <;> omega

theorem exists_nearest_hundredths (h : IsHundredths n) :
    ∃ m e, double.nearest false n 100 = .finite false m e ∧ e ≤ -8 := by
  have hle := topExponent_hundredths_le h
  have hmax : ¬ double.maxExponent < double.topExponent n 100 := by
    change ¬ (971 : ℤ) < double.topExponent n 100
    omega
  exact ⟨double.topMantissa n 100, double.topExponent n 100,
    by rw [double.nearest_eq false h.1, if_neg hmax], hle⟩

/-- Values from a two hundredth on start at the first place behind the point or in front of it. -/
theorem decimalCeiling_bounds (hlow : (1 / 200 : ℚ) < m * 2 ^ e)
    (hhigh : (m * 2 ^ e : ℚ) < 10 ^ 18) :
    -2 ≤ decimalCeiling m e ∧ decimalCeiling m e ≤ 18 := by
  have hvalue : (m * 2 ^ e : ℚ) = (m * Nat.pow 2 e.toNat : ℕ) / (Nat.pow 2 (-e).toNat : ℕ) := by
    rw [two_zpow_eq_div]
    push_cast
    ring
  rw [hvalue] at hlow hhigh
  unfold decimalCeiling
  dsimp only
  set a := m * Nat.pow 2 e.toNat
  set b := Nat.pow 2 (-e).toNat
  have hb : 0 < b := Nat.pow_pos (by decide)
  have hb' : (0 : ℚ) < b := by exact_mod_cast hb
  rw [div_lt_iff₀ hb'] at hhigh
  rw [lt_div_iff₀ hb'] at hlow
  split_ifs
  · have hlt : a / b < 10 ^ 18 := (Nat.div_lt_iff_lt_mul hb).2 (by exact_mod_cast hhigh)
    have := length_digitText_le (by decide) hlt
    omega
  · have hlt : b < 200 * a := by
      have : (b : ℚ) < 200 * a := by linarith
      exact_mod_cast this
    have ha : 0 < a := by omega
    have hdiv : b / a < 10 ^ 3 := (Nat.div_lt_iff_lt_mul ha).2 (by omega)
    have := length_digitText_le (by decide) hdiv
    have := length_digitText_pos (b / a)
    omega

/-- Two numbers of hundredths that read back as one value are the same. -/
theorem Covers.hundredths_inj {d i n : ℕ} (h : double.Covers m e (d * 10 ^ ((i : ℤ) - 2)))
    (hn : double.Covers m e (n * 10 ^ (-2 : ℤ))) (he : e ≤ -8) : d * 10 ^ i = n := by
  have hunit : (2 : ℚ) ^ e ≤ 1 / 256 := by
    refine (two_zpow_le he).trans (le_of_eq ?_)
    norm_num
  have hnear := (h.abs_sub_le hn).trans hunit
  rw [zpow_sub₀ (by norm_num), zpow_natCast, mul_div_assoc', zpow_neg, ← div_eq_mul_inv, ← sub_div,
    abs_div] at hnear
  norm_num at hnear
  have hlt : |((d * 10 ^ i : ℕ) : ℤ) - (n : ℤ)| < 1 := by
    have : |(d * 10 ^ i : ℚ) - n| < 1 := by linarith
    exact_mod_cast this
  have := Int.abs_lt_one_iff.1 hlt
  omega

/-- **The shortest decimal of a number of hundredths is that number.** -/
theorem shortest_hundredths (h : IsHundredths n)
    (hx : double.nearest false n 100 = .finite false m e) :
    ∃ d i : ℕ, double.shortest m e = (d, (i : ℤ) - 2) ∧ d * 10 ^ i = n := by
  obtain ⟨m', e', hx', he⟩ := exists_nearest_hundredths h
  obtain ⟨-, rfl, rfl⟩ := Binary.finite.inj (hx.symm.trans hx')
  have hunit : (2 : ℚ) ^ e ≤ 1 / 256 := by
    refine (two_zpow_le he).trans (le_of_eq ?_)
    norm_num
  have hq : double.Covers m e (n * 10 ^ (-2 : ℤ)) := by
    have hcovers := double.covers_of_nearest (by decide) h.1 (by decide) hx
    rw [Nat.cast_ofNat, div_eq_mul_inv] at hcovers
    convert hcovers using 2
    norm_num
  have hn : (1 : ℚ) ≤ n ∧ (n : ℚ) < 10 ^ 15 := by
    exact ⟨by exact_mod_cast h.1, by exact_mod_cast h.2⟩
  -- The value is close to the hundredths.
  obtain ⟨hclose₁, hclose₂⟩ := abs_le.1 ((double.covers_self m e).abs_sub_le hq)
  norm_num at hclose₁ hclose₂
  obtain ⟨hlow, hhigh⟩ := decimalCeiling_bounds (m := m) (e := e) (by linarith) (by linarith)
  have hm : m ≠ 0 := by
    rintro rfl
    rw [Nat.cast_zero, zero_mul] at hclose₁
    linarith
  obtain ⟨c, hc⟩ := double.exists_onGrid_of_covers hq
  obtain ⟨d, j, hshortest, hd, hj⟩ :=
    double.exists_shortest_of_onGrid hm hc hlow (by omega)
  obtain ⟨i, hi⟩ := Int.eq_ofNat_of_zero_le (show 0 ≤ j + 2 by omega)
  obtain rfl : j = (i : ℤ) - 2 := by omega
  exact ⟨d, i, hshortest, (double.covers_of_onGrid hd).hundredths_inj hq he⟩

end Precision

end ThreatModel
