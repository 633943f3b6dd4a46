import ThreatModel.Proofs.Number.Monotone

/-!
# Operations that are exact up to one rounding

Rounding depends on the quotient alone, not on how it is written (`Precision.nearest_congr`). Whole
numbers of few bits are not rounded (`Precision.value_ofNat`), so a division of two of them rounds
their quotient (`Precision.div_ofNat`).
-/

namespace ThreatModel

open Binary (inUnits)

namespace Precision

variable (p : Precision) {num den num' den' n : ℕ}

/-- **Quotients of one value are rounded to one value.** -/
theorem nearest_congr (s : Bool) (hden : 0 < den) (hden' : 0 < den')
    (h : (num / den : ℚ) = num' / den') : p.nearest s num den = p.nearest s num' den' := by
  rcases Nat.eq_zero_or_pos num with rfl | hnum
  · have hnum' : num' = 0 := by
      rw [Nat.cast_zero, zero_div, eq_comm, div_eq_zero_iff] at h
      exact_mod_cast h.resolve_right (by exact_mod_cast hden'.ne')
    rw [hnum', nearest, nearest, if_pos rfl, if_pos rfl]
  · have hnum' : 0 < num' := by
      have hpos : (0 : ℚ) < num' / den' := h ▸ by positivity
      have hne : (num' : ℚ) ≠ 0 := by
        intro hz
        rw [hz, zero_div] at hpos
        exact lt_irrefl _ hpos
      exact Nat.pos_of_ne_zero (by exact_mod_cast hne)
    have he : p.exponentFor num den = p.exponentFor num' den' :=
      le_antisymm (p.exponentFor_mono hnum hden hnum' hden' h.le)
        (p.exponentFor_mono hnum' hden' hnum hden h.ge)
    have hm : p.mantissaFor num den = p.mantissaFor num' den' :=
      le_antisymm (p.mantissaFor_mono hden hden' h.le he)
        (p.mantissaFor_mono hden' hden h.ge he.symm)
    rw [p.nearest_eq s hnum, p.nearest_eq s hnum', topMantissa, topExponent, topMantissa,
      topExponent, he, hm]

/-- A format that has the small whole numbers. -/
structure HasUnits : Prop where
  bits : 0 < p.bits
  least : p.minExponent ≤ 0
  greatest : 0 < p.maxExponent

theorem hasUnits_double : double.HasUnits := ⟨by decide, by decide, by decide⟩

variable {p}

theorem exponentFor_one_le (h : p.HasUnits) (hn : 0 < n) (hlt : n < 2 ^ p.bits) :
    p.exponentFor n 1 ≤ 0 := by
  rcases (p.suits_exponentFor hn Nat.one_pos).full with hfull | hfull
  · exact hfull ▸ h.least
  · have hbound : (n / (1 : ℕ) : ℚ) < 2 ^ (p.bits : ℤ) := by
      rw [Nat.cast_one, div_one, zpow_natCast]
      exact_mod_cast hlt
    have := two_zpow_lt_iff.1 (hfull.trans_lt hbound)
    omega

/-- **Whole numbers of few bits are not rounded.** -/
theorem exists_ofNat_eq (h : p.HasUnits) (hlt : n < 2 ^ p.bits) :
    ∃ m e, p.ofNat n = .finite false m e ∧ (m * 2 ^ e : ℚ) = n := by
  rcases Nat.eq_zero_or_pos n with rfl | hn
  · exact ⟨0, p.minExponent, by rw [ofNat, nearest, if_pos rfl, zero], by simp⟩
  · have he := exponentFor_one_le h hn hlt
    have hmantissa : p.mantissaFor n 1 = n * Nat.pow 2 (-p.exponentFor n 1).toNat := by
      have hnot : (p.exponentFor n 1).toNat = 0 := by omega
      simp only [mantissaFor, inUnits, hnot, Nat.pow_eq, Nat.pow_zero, Nat.mul_one,
        Rounding.halfEven_one]
    have htop : ¬ p.maxExponent < p.topExponent n 1 := by
      have := h.greatest
      unfold topExponent
      split_ifs <;> omega
    refine ⟨p.topMantissa n 1, p.topExponent n 1, ?_, ?_⟩
    · rw [ofNat, p.nearest_eq false hn, if_neg htop]
    · have hzero : (p.exponentFor n 1).toNat = 0 := by omega
      rw [p.topMantissa_mul h.bits, hmantissa, two_zpow_eq_div, hzero]
      push_cast
      simp

theorem value_ofNat (h : p.HasUnits) (hlt : n < 2 ^ p.bits) : (p.ofNat n).value = n := by
  obtain ⟨m, e, hofNat, hvalue⟩ := exists_ofNat_eq h hlt
  rw [hofNat, Binary.value_finite, hvalue]

/-- **A quotient of whole numbers of few bits is rounded once.** -/
theorem div_ofNat (h : p.HasUnits) (hnum : num < 2 ^ p.bits) (hden : 0 < den)
    (hden' : den < 2 ^ p.bits) : p.div (p.ofNat num) (p.ofNat den) = p.nearest false num den := by
  obtain ⟨m, e, hx, hm⟩ := exists_ofNat_eq h hnum
  obtain ⟨n, f, hy, hn⟩ := exists_ofNat_eq h hden'
  have hpos : 0 < n := by
    have hcast : (0 : ℚ) < n * 2 ^ f := hn ▸ (by exact_mod_cast hden)
    exact_mod_cast pos_of_mul_pos_left hcast (two_zpow_pos f).le
  rw [hx, hy]
  simp only [div, if_neg hpos.ne']
  refine p.nearest_congr _ (Nat.mul_pos hpos (Nat.pow_pos (by decide))) hden ?_
  rw [← hm, ← hn, mul_div_mul_comm, ← zpow_sub₀ (by norm_num), two_zpow_eq_div, neg_sub]
  push_cast
  rw [mul_div_mul_comm]

end Precision

end ThreatModel
