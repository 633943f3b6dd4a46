import ThreatModel.Proofs.Json.Printing
import ThreatModel.Proofs.Number.Digits
import ThreatModel.Proofs.Number.Exact
import ThreatModel.Proofs.Number.Shortest

/-!
# Printed numbers are read back

* `readsBack_nat` : whole numbers of at most 64 bits read back from their digits;
* `readsBack_hundredths` : so does the double nearest to a number of hundredths with at most
  fifteen digits.

A double is read by dividing the digits without the point by a power of ten. Both are whole numbers
of few bits, so that this rounds once (`scaled_eq_nearest`), and the shortest decimal of such a
double is the number of hundredths itself. Without that bound a double need not read back, because
the digits or the power of ten may be rounded as well.
-/

namespace ThreatModel

open Precision (double IsHundredths)

namespace Json

variable {w f : List Char} {n s t : ℕ}

/-- The digits of a whole number, no zero in front of others. -/
structure WholeText (w : List Char) : Prop where
  ne_nil : w ≠ []
  digits : ∀ c ∈ w, c.isDigit = true
  lead : w.head? = some '0' → w = ['0']

theorem wholeText_digitText (n : ℕ) : WholeText (digitText n) where
  ne_nil := Nat.toDigits_ne_nil
  digits _ := isDigit_of_mem_digitText
  lead h := by
    rcases Nat.eq_zero_or_pos n with rfl | hn
    · rfl
    · exact absurd h (head?_digitText_ne_zero hn)

/-- The values of digits. -/
abbrev digitValues (w : List Char) : List ℕ := w.map fun c => c.toNat - 48

theorem eq_zero_of_isDigit {c : Char} (h : c.isDigit = true) (hc : c.toNat - 48 = 0) : c = '0' := by
  have hlow : 48 ≤ c.toNat := (Char.isDigit_iff_toNat.1 h).1
  exact Char.toNat_inj.1 (show c.toNat = 48 by omega)

theorem WholeText.digitsText {c : Char} {r : List Char} (h : WholeText (c :: r)) :
    DigitsText ((c.toNat - 48) :: digitValues r) (c :: r) :=
  ⟨h.ne_nil, h.digits, rfl⟩

theorem WholeText.lead_values {c : Char} {r : List Char} (h : WholeText (c :: r))
    (hc : c.toNat - 48 = 0) : digitValues r = [] := by
  obtain rfl := eq_zero_of_isDigit (h.digits c List.mem_cons_self) hc
  rw [List.cons_eq_cons.1 (h.lead rfl) |>.2]
  rfl

/-- Digits with a point and others behind them are a numeral. -/
theorem numeralText_fraction (hw : WholeText w) (hf : f ≠ [])
    (hdigits : ∀ c ∈ f, c.isDigit = true) :
    NumeralText ⟨false, digitValues w, some (digitValues f), none⟩ (w ++ '.' :: f) := by
  obtain ⟨c, r, rfl⟩ := List.exists_cons_of_ne_nil hw.ne_nil
  have htext : NumeralText ⟨false, _, _, none⟩ _ :=
    .intro hw.digitsText hw.lead_values (.present ⟨hf, hdigits, rfl⟩) .absent
  simpa using htext

/-- Digits are a numeral. -/
theorem numeralText_whole (hw : WholeText w) :
    NumeralText ⟨false, digitValues w, none, none⟩ w := by
  obtain ⟨c, r, rfl⟩ := List.exists_cons_of_ne_nil hw.ne_nil
  have htext : NumeralText ⟨false, _, none, none⟩ _ :=
    .intro hw.digitsText hw.lead_values .absent .absent
  simpa using htext

/-! ### Values of numerals -/

theorem le_ofDigitChars (w : List Char) (n : ℕ) : n ≤ Nat.ofDigitChars 10 w n := by
  rw [Nat.ofDigitChars_eq_ofDigitChars_zero]
  have := Nat.mul_le_mul_right n (Nat.one_le_pow w.length 10 (by decide))
  omega

/-- Digits of at most 64 bits are taken into a significand to the last one. -/
theorem significand_digitValues (h : Nat.ofDigitChars 10 w n ≤ maxWord) :
    significand n (digitValues w) = (Nat.ofDigitChars 10 w n, []) := by
  induction w generalizing n with
  | nil => rfl
  | cons c w ih =>
    rw [Nat.ofDigitChars_cons, Nat.mul_comm] at h ⊢
    have hle : n * 10 + (c.toNat - 48) ≤ maxWord := (le_ofDigitChars w _).trans h
    rw [digitValues, List.map_cons, significand, if_neg (Nat.not_lt.2 hle)]
    exact ih h

theorem value?_whole (h : Nat.ofDigitChars 10 w 0 ≤ maxWord) :
    Numeral.value? ⟨false, digitValues w, none, none⟩ =
      some (.integer (Nat.ofDigitChars 10 w 0)) := by
  simp [Numeral.value?, significand_digitValues h]

theorem value?_fraction (h : Nat.ofDigitChars 10 (w ++ f) 0 ≤ maxWord) :
    Numeral.value? ⟨false, digitValues w, some (digitValues f), none⟩ =
      (scaled false (Nat.ofDigitChars 10 (w ++ f) 0) (-f.length)).map .double := by
  rw [Nat.ofDigitChars_append] at h ⊢
  have hw := (le_ofDigitChars f _).trans h
  simp [Numeral.value?, Numeral.exponentValue, significand_digitValues hw,
    significand_digitValues h]

/-- **Whole numbers of at most 64 bits read back.** -/
theorem readsBack_nat (h : n ≤ maxWord) : ReadsBack (.integer n) := by
  refine ⟨⟨false, digitValues (digitText n), none, none⟩, ?_, ?_⟩
  · have htext : Number.text (.integer n) = digitText n := by simp [Number.text, intText]
    rw [htext]
    exact numeralText_whole (wholeText_digitText n)
  · rw [value?_whole (by rwa [ofDigitChars_digitText]), ofDigitChars_digitText]

/-! ### Hundredths -/

/-- **Few digits are scaled with one rounding.** -/
theorem scaled_eq_nearest (hs : s < 2 ^ 53) (ht : 0 < t) (ht' : t ≤ 15)
    (hfin : (double.nearest false s (10 ^ t)).isFinite = true) :
    scaled false s (-(t : ℤ)) = some (double.nearest false s (10 ^ t)) := by
  have hpower : double.ofDecimal false 1 (t : ℤ) = double.ofNat (10 ^ t) := by
    have hsize : (Nat.toDigits 10 1).length = 1 := rfl
    have hlow : ¬ 1 + (t : ℤ) < -400 := by omega
    have hhigh : ¬ 400 < 1 + (t : ℤ) := by omega
    have hzero : (-(t : ℤ)).toNat = 0 := by omega
    simp [Precision.ofDecimal, Precision.ofNat, hsize, hlow, hhigh, hzero]
  have hbound : 10 ^ t < 2 ^ 53 := (Nat.pow_le_pow_right (by decide) ht').trans_lt (by decide)
  have hdiv : double.div (double.ofNat s) (double.ofNat (10 ^ t)) =
      double.nearest false s (10 ^ t) :=
    Precision.div_ofNat Precision.hasUnits_double hs (Nat.pow_pos (by decide)) hbound
  have hnonneg : ¬ (0 : ℤ) ≤ -(t : ℤ) := by omega
  have hleast : (-308 : ℤ) ≤ -(t : ℤ) := by omega
  simp only [scaled, hnonneg, hleast, if_false, if_true, neg_neg, Int.toNat_natCast, hpower, hdiv,
    hfin, Bool.false_eq_true]

/-- Text with a point is read as the number of its digits over a power of ten. -/
theorem readsBack_of_fraction {x : Binary} (hw : WholeText w) (hf : f ≠ [])
    (hdigits : ∀ c ∈ f, c.isDigit = true) (hlen : f.length ≤ 15)
    (hvalue : Nat.ofDigitChars 10 (w ++ f) 0 < 2 ^ 53) (hfin : x.isFinite = true)
    (htext : doubleText x = w ++ '.' :: f)
    (hx : x = double.nearest false (Nat.ofDigitChars 10 (w ++ f) 0) (10 ^ f.length)) :
    ReadsBack (.double x) := by
  have hword : Nat.ofDigitChars 10 (w ++ f) 0 ≤ maxWord :=
    hvalue.le.trans (by decide)
  refine ⟨_, htext ▸ numeralText_fraction hw hf hdigits, ?_⟩
  rw [value?_fraction hword,
    scaled_eq_nearest hvalue (List.length_pos_iff.2 hf) hlen (hx ▸ hfin), ← hx]
  rfl

/-- The digits in front of the point and behind it of a number of hundredths. -/
structure SpellsHundredths (n : ℕ) (w f : List Char) : Prop where
  whole : WholeText w
  ne_nil : f ≠ []
  digits : ∀ c ∈ f, c.isDigit = true
  length : f.length ≤ 2
  value : Nat.ofDigitChars 10 (w ++ f) 0 * 100 = n * 10 ^ f.length

theorem ofDigitChars_zeros_append (k : ℕ) (w : List Char) :
    Nat.ofDigitChars 10 (zeros k ++ w) 0 = Nat.ofDigitChars 10 w 0 := by
  rw [Nat.ofDigitChars_append, zeros, Nat.ofDigitChars_replicate_zero, Nat.mul_zero]

@[simp] theorem length_zeros (k : ℕ) : (zeros k).length = k := List.length_replicate

theorem isDigit_of_mem_zeros {k : ℕ} {c : Char} (h : c ∈ zeros k) : c.isDigit = true := by
  rw [(List.mem_replicate.1 h).2]
  rfl

/-- Digits of a positive number, cut off or with others behind them, are those of a whole number. -/
theorem WholeText.of_head {d : ℕ} (hd : 0 < d) (hw : w.head? = (digitText d).head?)
    (hdigits : ∀ c ∈ w, c.isDigit = true) : WholeText w where
  ne_nil := by
    rintro rfl
    exact Nat.toDigits_ne_nil (List.head?_eq_none_iff.1 hw.symm)
  digits := hdigits
  lead h := absurd (hw ▸ h) (head?_digitText_ne_zero hd)

section

variable {d k : ℕ}

/-! A decimal without places behind the point, with digits on both sides of it, and with zeros
right behind it. -/

theorem decimalText_whole (h : (digitText d).length + k ≤ 16) :
    decimalText d k = (digitText d ++ zeros k) ++ '.' :: zeros 1 := by
  unfold decimalText
  dsimp only
  rw [if_pos (by simp; omega), Int.toNat_natCast, List.append_assoc, List.append_assoc]
  rfl

theorem spellsHundredths_whole (hd : 0 < d) (hn : d * 10 ^ (2 + k) = n) :
    SpellsHundredths n (digitText d ++ zeros k) (zeros 1) where
  whole := by
    refine .of_head hd (List.head?_append_of_ne_nil _ Nat.toDigits_ne_nil) fun c hc => ?_
    rcases List.mem_append.1 hc with hc | hc
    · exact isDigit_of_mem_digitText hc
    · exact isDigit_of_mem_zeros hc
  ne_nil := List.cons_ne_nil _ _
  digits _ := isDigit_of_mem_zeros
  length := by simp
  value := by
    have hzeros : zeros k ++ zeros 1 = zeros (k + 1) := (List.replicate_add k 1 '0').symm
    rw [List.append_assoc, hzeros, Nat.ofDigitChars_append, ofDigitChars_digitText, zeros,
      Nat.ofDigitChars_replicate_zero, length_zeros, ← hn]
    ring

theorem decimalText_cut (hk : 0 < k) (hlt : k < (digitText d).length)
    (h : (digitText d).length ≤ 16) :
    decimalText d (-k) = (digitText d).take ((digitText d).length - k) ++
      '.' :: (digitText d).drop ((digitText d).length - k) := by
  have hpoint : ((digitText d).length + -(k : ℤ)).toNat = (digitText d).length - k := by omega
  unfold decimalText
  dsimp only
  rw [if_neg (by simp; omega), if_pos (by simp; omega), hpoint]

theorem spellsHundredths_cut (hd : 0 < d) (hk : 0 < k) (hk' : k ≤ 2)
    (hlt : k < (digitText d).length) (hn : d * 100 = n * 10 ^ k) :
    SpellsHundredths n ((digitText d).take ((digitText d).length - k))
      ((digitText d).drop ((digitText d).length - k)) where
  whole := by
    refine .of_head hd ?_ fun c hc => isDigit_of_mem_digitText (List.mem_of_mem_take hc)
    rw [List.head?_take, if_neg (by omega)]
  ne_nil := by
    rw [Ne, List.drop_eq_nil_iff]
    omega
  digits _ hc := isDigit_of_mem_digitText (List.mem_of_mem_drop hc)
  length := by
    rw [List.length_drop]
    omega
  value := by
    rw [List.take_append_drop, ofDigitChars_digitText, List.length_drop,
      Nat.sub_sub_self hlt.le, hn]

theorem decimalText_small (hk : (digitText d).length ≤ k) (h : k < (digitText d).length + 5) :
    decimalText d (-k) = zeros 1 ++ '.' :: (zeros (k - (digitText d).length) ++ digitText d) := by
  have hpoint : (-((digitText d).length + -(k : ℤ))).toNat = k - (digitText d).length := by omega
  have hpos := length_digitText_pos d
  unfold decimalText
  dsimp only
  rw [if_neg (by simp; omega), if_neg (by simp; omega), if_pos (by simp; omega), hpoint]
  rfl

theorem spellsHundredths_small (hk : (digitText d).length ≤ k) (hk' : k ≤ 2)
    (hn : d * 100 = n * 10 ^ k) :
    SpellsHundredths n (zeros 1) (zeros (k - (digitText d).length) ++ digitText d) where
  whole := wholeText_digitText 0
  ne_nil := List.append_ne_nil_of_right_ne_nil _ Nat.toDigits_ne_nil
  digits c hc := by
    rcases List.mem_append.1 hc with hc | hc
    · exact isDigit_of_mem_zeros hc
    · exact isDigit_of_mem_digitText hc
  length := by
    rw [List.length_append, length_zeros]
    omega
  value := by
    rw [ofDigitChars_zeros_append, ofDigitChars_zeros_append, ofDigitChars_digitText,
      List.length_append, length_zeros, Nat.sub_add_cancel hk, hn]

end

/-- **Hundredths are written with a point**, and at most two digits behind it. -/
theorem exists_decimalText_eq {d i : ℕ} (h : IsHundredths n) (hn : d * 10 ^ i = n) :
    ∃ w f, decimalText d ((i : ℤ) - 2) = w ++ '.' :: f ∧ SpellsHundredths n w f := by
  have hd : 0 < d := by
    refine Nat.pos_of_ne_zero ?_
    rintro rfl
    rw [Nat.zero_mul] at hn
    exact absurd h.1 (by omega)
  have hlen : (digitText d).length + i ≤ 15 := by
    have hpow : 10 ^ ((digitText d).length - 1 + i) < 10 ^ 15 := by
      rw [Nat.pow_add]
      exact (Nat.mul_le_mul_right _ (pow_length_digitText_le hd)).trans_lt (hn ▸ h.2)
    have := (Nat.pow_lt_pow_iff_right (by decide)).1 hpow
    omega
  rcases Nat.lt_or_ge i 2 with hi | hi
  · have hexponent : (i : ℤ) - 2 = -((2 - i : ℕ) : ℤ) := by omega
    have hvalue : d * 100 = n * 10 ^ (2 - i) := by
      rw [← hn, Nat.mul_assoc, ← Nat.pow_add, Nat.add_sub_cancel' hi.le]
    rw [hexponent]
    rcases Nat.lt_or_ge (2 - i) (digitText d).length with hlt | hge
    · exact ⟨_, _, decimalText_cut (by omega) hlt (by omega),
        spellsHundredths_cut hd (by omega) (by omega) hlt hvalue⟩
    · exact ⟨_, _, decimalText_small hge (by omega),
        spellsHundredths_small hge (by omega) hvalue⟩
  · obtain ⟨k, rfl⟩ := Nat.exists_eq_add_of_le hi
    have hexponent : ((2 + k : ℕ) : ℤ) - 2 = k := by omega
    rw [hexponent]
    exact ⟨_, _, decimalText_whole (by omega), spellsHundredths_whole hd hn⟩

/-- The text of hundredths is read as the double nearest to them. -/
theorem SpellsHundredths.readsBack {x : Binary} (h : SpellsHundredths n w f) (hn : n < 10 ^ 15)
    (hx : x = double.nearest false n 100) (hfin : x.isFinite = true)
    (htext : doubleText x = w ++ '.' :: f) : ReadsBack (.double x) := by
  have hpow : 10 ^ f.length ≤ 10 ^ 2 := Nat.pow_le_pow_right (by decide) h.length
  have hvalue : Nat.ofDigitChars 10 (w ++ f) 0 ≤ n := by
    have := Nat.mul_le_mul_left n hpow
    have := h.value
    omega
  refine readsBack_of_fraction h.whole h.ne_nil h.digits (h.length.trans (by decide)) (by omega)
    hfin htext (hx.trans ?_)
  refine double.nearest_congr false (by decide) (Nat.pow_pos (by decide)) ?_
  have hcast : (Nat.ofDigitChars 10 (w ++ f) 0 * 100 : ℚ) = n * 10 ^ f.length := by
    exact_mod_cast h.value
  rw [div_eq_div_iff (by norm_num) (by positivity)]
  push_cast
  exact hcast.symm

/-- **A number of hundredths with at most fifteen digits reads back.** -/
theorem readsBack_hundredths (hn : n < 10 ^ 15) :
    ReadsBack (.double (double.nearest false n 100)) := by
  rcases Nat.eq_zero_or_pos n with rfl | hpos
  · have hzero : SpellsHundredths 0 (zeros 1) (zeros 1) :=
      ⟨wholeText_digitText 0, List.cons_ne_nil _ _, fun _ => isDigit_of_mem_zeros, by decide, rfl⟩
    exact hzero.readsBack hn rfl rfl rfl
  · have h : IsHundredths n := ⟨hpos, hn⟩
    obtain ⟨m, e, hx, -⟩ := Precision.exists_nearest_hundredths h
    obtain ⟨d, i, hshortest, hd⟩ := Precision.shortest_hundredths h hx
    obtain ⟨w, f, htext, hspells⟩ := exists_decimalText_eq h hd
    have hm : m ≠ 0 := by
      rintro rfl
      rw [Precision.shortest, if_pos rfl, Prod.mk.injEq] at hshortest
      rw [← hshortest.1, Nat.zero_mul] at hd
      omega
    refine hspells.readsBack hn rfl (by rw [hx]; rfl) ?_
    simp only [hx, doubleText, hshortest, hm, if_false, Bool.false_eq_true, List.nil_append, htext]

end Json

end ThreatModel
