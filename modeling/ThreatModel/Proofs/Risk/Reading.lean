import ThreatModel.Proofs.Number.Digits
import ThreatModel.Proofs.Number.Exact
import ThreatModel.Proofs.Text.Classes
import ThreatModel.Proofs.Text.Splitting
import ThreatModel.Risk.Factor

/-!
# Factors that are read

A factor is read from a number, or from a text that spells one. Both go through a double, which is
not exact for large integers. The factor is that of the number itself all the same
(`factorOf_number`): the number rounded to a whole one and brought into range. Doubles are exact as
far as the range goes, and the double of a larger integer is not smaller.

A text that spells an integer (`Spelling`), with zeros in front, a sign and blanks around it, is
read as the double of that integer (`Spelling.ofText?_text`), so numbers and texts agree
(`factors_clamped_and_monotone`).
-/

namespace ThreatModel

open Precision (double)

variable {x : Binary} {n : ℤ}

/-! ### Rounding to a factor -/

theorem halfAway_eq_floor {num den : ℕ} (h : 0 < den) :
    Rounding.halfAway num den = ⌊(num / den + 1 / 2 : ℚ)⌋₊ := by
  have hden : (den : ℚ) ≠ 0 := by exact_mod_cast h.ne'
  have hquotient : (num / den + 1 / 2 : ℚ) = (2 * num + den : ℕ) / (2 * den : ℕ) := by
    push_cast
    field_simp
  rw [hquotient, Nat.floor_div_eq_div, Rounding.halfAway]

/-- **The factor of a finite value** is the number it stands for, rounded and brought into range. -/
theorem nearestFactor_eq (hx : x.isFinite = true) :
    nearestFactor x = min 9 ⌊x.value + 1 / 2⌋₊ := by
  cases x with
  | finite s m e =>
    cases s with
    | true =>
      have hvalue : (Binary.finite true m e).value ≤ 0 := by
        simpa [Binary.value] using mul_nonneg (Nat.cast_nonneg m) (two_zpow_pos e).le
      have hfloor : ⌊(Binary.finite true m e).value + 1 / 2⌋₊ = 0 :=
        Nat.floor_eq_zero.2 (by linarith)
      rw [hfloor]
      rfl
    | false =>
      have hquotient : (Binary.finite false m e).value =
          (m * Nat.pow 2 e.toNat : ℕ) / (Nat.pow 2 (-e).toNat : ℕ) := by
        rw [Binary.value_finite, two_zpow_eq_div, Nat.cast_mul, mul_div_assoc]
      have hden : 0 < Nat.pow 2 (-e).toNat := Nat.pow_pos (by decide)
      rw [hquotient, ← halfAway_eq_floor hden, Nat.min_comm]
      rfl
  | infinite s => cases hx
  | nan => cases hx

theorem floor_add_half (n : ℤ) : ⌊(n + 1 / 2 : ℚ)⌋₊ = n.toNat := by
  have hhalf : ⌊(1 / 2 : ℚ)⌋ = 0 := by norm_num
  rw [← Int.floor_toNat, Int.floor_intCast_add, hhalf, add_zero]

/-! ### Integers as doubles -/

/-- The integers of at most 64 bits, with or without a sign. -/
def FitsWord (n : ℤ) : Prop := -2 ^ 63 ≤ n ∧ n < 2 ^ 64

theorem nearest_true (p : Precision) (num den : ℕ) :
    p.nearest true num den = (p.nearest false num den).neg := by
  unfold Precision.nearest
  dsimp only
  split_ifs <;> rfl

theorem nonneg_ofNat {k : ℕ} (h : k ≤ 2 ^ 64) : (double.ofNat k).Nonneg := by
  have hlargest : (double.ofNat (2 ^ 64)).Nonneg := by decide +kernel
  exact (double.ofNat_mono (by decide) h hlargest).left

/-- Doubles are exact up to nine, and not below nine behind it. -/
theorem nearestFactor_ofNat {k : ℕ} (h : k ≤ 2 ^ 64) :
    nearestFactor (double.ofNat k) = min 9 k := by
  have hvalue {k : ℕ} (h : k ≤ 9) : (double.ofNat k).value = k :=
    Precision.value_ofNat Precision.hasUnits_double (h.trans_lt (by decide))
  rw [nearestFactor_eq (nonneg_ofNat h).1]
  rcases Nat.le_total k 9 with hk | hk
  · have hfloor := floor_add_half k
    rw [Int.cast_natCast, Int.toNat_natCast] at hfloor
    rw [hvalue hk, hfloor]
  · have hle := (double.ofNat_mono (by decide) hk (nonneg_ofNat h)).le
    rw [hvalue (Nat.le_refl 9)] at hle
    have hfloor : 9 ≤ ⌊(double.ofNat k).value + 1 / 2⌋₊ := by
      refine Nat.le_floor ?_
      push_cast at hle ⊢
      linarith
    rw [Nat.min_eq_left hfloor, Nat.min_eq_left hk]

/-- **The factor of an integer** is the integer brought into range. -/
theorem nearestFactor_ofInt (h : FitsWord n) :
    (nearestFactor (double.ofInt n) : ℤ) = min 9 (max 0 n) := by
  obtain ⟨hlow, hhigh⟩ := h
  have habs : n.natAbs ≤ 2 ^ 64 := by omega
  rcases lt_or_ge n 0 with hn | hn
  · obtain ⟨m, e, hofNat⟩ := (nonneg_ofNat habs).exists_eq
    have hofInt : double.ofInt n = .finite true m e := by
      rw [Precision.ofInt, decide_eq_true hn, nearest_true]
      exact congrArg Binary.neg hofNat
    rw [hofInt, nearestFactor, if_pos rfl]
    omega
  · have hofInt : double.ofInt n = double.ofNat n.natAbs := by
      rw [Precision.ofInt, decide_eq_false (not_lt.2 hn), Precision.ofNat]
    rw [hofInt, nearestFactor_ofNat habs]
    omega

/-! ### Numbers -/

namespace Json.Number

/-- The number that is meant. -/
def value : Number → ℚ
  | integer n => n
  | double x => x.value

/-- The numbers that are read: an integer fits a word, and a double is finite. -/
def Proper : Number → Prop
  | integer n => FitsWord n
  | double x => x.isFinite = true

end Json.Number

/-- **The factor of a number** is the number rounded and brought into range. -/
theorem factorOf_number {y : Json.Number} (h : y.Proper) :
    factorOf (some (.number y)) = min 9 ⌊y.value + 1 / 2⌋₊ := by
  cases y with
  | integer n =>
    have hfactor := nearestFactor_ofInt h
    rw [Json.Number.value, floor_add_half]
    change nearestFactor (double.ofInt n) = _
    omega
  | double x => exact nearestFactor_eq h

/-! ### Texts -/

section Digits

variable {ds : List Char}

/-- Digits are no name, which begins with a letter. -/
theorem ofList_map_toLower_ne {a : Char} {name : List Char} (ha : a.isAlpha = true) (hne : ds ≠ [])
    (hds : ∀ c ∈ ds, c.isDigit = true) :
    String.ofList (ds.map Char.toLower) ≠ String.ofList (a :: name) := by
  intro h
  obtain ⟨d, ds, rfl⟩ := List.exists_cons_of_ne_nil hne
  have hd : d.isDigit = true := hds d List.mem_cons_self
  have hlower : d.toLower.isAlpha = false :=
    Text.of_isAlphanum (P := fun c => c.isDigit = true → c.toLower.isAlpha = false) (by decide)
      (Text.isAlphanum_of_isDigit hd) hd
  obtain ⟨rfl, -⟩ := List.cons.inj (String.ofList_inj.1 h)
  exact Bool.false_ne_true (hlower.symm.trans ha)

theorem unsigned?_digits (negative : Bool) (hne : ds ≠ []) (hds : ∀ c ∈ ds, c.isDigit = true) :
    Binary.unsigned? negative ds = some (double.ofDecimal negative (ofDigits ds) 0) := by
  have htake : ds.takeWhile Char.isDigit = ds := List.takeWhile_eq_self_iff.2 hds
  have hdrop : ds.dropWhile Char.isDigit = [] := List.dropWhile_eq_nil_iff.2 hds
  simp [Binary.unsigned?, htake, hdrop, hne, Binary.exponentOf?]

/-- **Digits with a sign** are read as a decimal. -/
theorem ofText?_digits {sign : List Char} (hsign : sign ∈ [['-'], [], ['+']]) (hne : ds ≠ [])
    (hds : ∀ c ∈ ds, c.isDigit = true) :
    Binary.ofText? (sign ++ ds) =
      some (double.ofDecimal (sign == ['-']) (ofDigits ds) 0) := by
  have hinf : String.ofList (ds.map Char.toLower) ≠ "inf" :=
    ofList_map_toLower_ne (a := 'i') (by decide) hne hds
  have hinfinity : String.ofList (ds.map Char.toLower) ≠ "infinity" :=
    ofList_map_toLower_ne (a := 'i') (by decide) hne hds
  have hnan : String.ofList (ds.map Char.toLower) ≠ "nan" :=
    ofList_map_toLower_ne (a := 'n') (by decide) hne hds
  have hbody (negative : Bool) := unsigned?_digits negative hne hds
  simp only [List.mem_cons, List.not_mem_nil, or_false] at hsign
  rcases hsign with rfl | rfl | rfl
  · simp [Binary.ofText?, hinf, hinfinity, hnan, hbody]
  · -- The first digit is not taken for a sign.
    have hmark {c : Char} (hc : c.isDigit = false) (r : List Char) : ds ≠ c :: r := by
      rintro rfl
      exact Bool.false_ne_true (hc.symm.trans (hds c List.mem_cons_self))
    rw [List.nil_append, Binary.ofText?]
    · simp [hinf, hinfinity, hnan, hbody]
    · exact hmark rfl
    · exact hmark rfl
  · simp [Binary.ofText?, hinf, hinfinity, hnan, hbody]

/-- A whole number of at most 64 bits is within the range of decimals that are computed. -/
theorem ofDecimal_zero (negative : Bool) {k : ℕ} (h : k < 10 ^ 20) :
    double.ofDecimal negative k 0 = double.nearest negative k 1 := by
  have hsize : (Nat.toDigits 10 k).length ≤ 20 := length_digitText_le (by decide) h
  rcases Nat.eq_zero_or_pos k with rfl | hk
  · rfl
  · have hlow : ¬ ((Nat.toDigits 10 k).length : ℤ) < -400 := by omega
    have hhigh : ¬ 400 < ((Nat.toDigits 10 k).length : ℤ) := by omega
    simp [Precision.ofDecimal, hk.ne', hlow, hhigh]

end Digits

/-- A text that spells an integer: blanks around it, a sign that only a negative number needs, and
zeros in front of its digits. -/
structure Spelling (n : ℤ) where
  front : List Char
  sign : List Char
  zeros : ℕ
  back : List Char
  isBlank_front : ∀ c ∈ front, Text.isBlank c = true
  isBlank_back : ∀ c ∈ back, Text.isBlank c = true
  sign_mem : sign ∈ if n < 0 then [['-']] else [[], ['+']]

namespace Spelling

variable (p : Spelling n)

/-- The digits with the zeros in front of them. -/
def digits : List Char := List.replicate p.zeros '0' ++ digitText n.natAbs

/-- The text. -/
def text : String := String.ofList (p.front ++ (p.sign ++ p.digits ++ p.back))

theorem isDigit_of_mem_digits {c : Char} (h : c ∈ p.digits) : c.isDigit = true := by
  rcases List.mem_append.1 h with h | h
  · rw [(List.mem_replicate.1 h).2]
    rfl
  · exact isDigit_of_mem_digitText h

theorem digits_ne_nil : p.digits ≠ [] :=
  List.append_ne_nil_of_right_ne_nil _ (digitText_ne_nil _)

theorem ofDigits_digits : ofDigits p.digits = n.natAbs := by
  rw [digits, ofDigits_eq, Nat.ofDigitChars_append, Nat.ofDigitChars_replicate_zero, Nat.mul_zero,
    ofDigitChars_digitText]

theorem sign_eq : p.sign = ['-'] ∧ n < 0 ∨ (p.sign = [] ∨ p.sign = ['+']) ∧ 0 ≤ n := by
  have hsign := p.sign_mem
  split_ifs at hsign with hn
  · exact .inl ⟨List.mem_singleton.1 hsign, hn⟩
  · exact .inr ⟨List.mem_pair.1 hsign, not_lt.1 hn⟩

theorem not_isBlank_of_mem_sign {c : Char} (h : c ∈ p.sign) : Text.isBlank c = false := by
  have hmark : c ∈ ['-', '+'] := by
    rcases p.sign_eq with ⟨hsign, -⟩ | ⟨hsign | hsign, -⟩ <;> rw [hsign] at h
    · exact List.mem_append_left ['+'] h
    · cases h
    · exact List.mem_cons_of_mem '-' h
  exact Text.forall_mem_of_all (P := fun c => Text.isBlank c = false) (by decide) c hmark

theorem trim_text : Text.trim p.text.toList = p.sign ++ p.digits := by
  rw [text, String.toList_ofList]
  refine Text.trim_between p.isBlank_front p.isBlank_back ?_ ?_
  · exact List.append_ne_nil_of_right_ne_nil _ p.digits_ne_nil
  · intro c hc
    rcases List.mem_append.1 hc with hc | hc
    · exact p.not_isBlank_of_mem_sign hc
    · exact Text.not_isBlank_of_isDigit (p.isDigit_of_mem_digits hc)

/-- **The text of an integer is read as its double.** -/
theorem ofText?_text (h : FitsWord n) :
    Binary.ofText? (Text.trim p.text.toList) = some (double.ofInt n) := by
  have hbound : n.natAbs < 10 ^ 20 := by
    obtain ⟨hlow, hhigh⟩ := h
    omega
  have hsign : p.sign ∈ [['-'], [], ['+']] ∧ (p.sign == ['-']) = decide (n < 0) := by
    rcases p.sign_eq with ⟨hsign, hn⟩ | ⟨hsign | hsign, hn⟩ <;> rw [hsign]
    · exact ⟨by decide, (decide_eq_true hn).symm⟩
    · exact ⟨by decide, (decide_eq_false (not_lt.2 hn)).symm⟩
    · exact ⟨by decide, (decide_eq_false (not_lt.2 hn)).symm⟩
  rw [p.trim_text, ofText?_digits hsign.1 p.digits_ne_nil fun c => p.isDigit_of_mem_digits, hsign.2,
    p.ofDigits_digits, ofDecimal_zero _ hbound, Precision.ofInt]

end Spelling

/-! ### Numbers and texts -/

theorem factorOf_text (p : Spelling n) (h : FitsWord n) :
    factorOf (some (.string p.text)) = factorOf (some (.number (.integer n))) := by
  simp only [factorOf, p.ofText?_text h]
  rfl

/-- **Factors are brought into range however they are spelled.** An integer of at most 64 bits and
every text that spells it give the integer brought into range. A number that is not smaller gives a
factor that is not smaller, and no value gives a factor out of range. -/
theorem factors_clamped_and_monotone :
    (∀ n, FitsWord n →
      (factorOf (some (.number (.integer n))) : ℤ) = min 9 (max 0 n) ∧
        ∀ p : Spelling n, (factorOf (some (.string p.text)) : ℤ) = min 9 (max 0 n)) ∧
    (∀ x y : Json.Number, x.Proper → y.Proper → x.value ≤ y.value →
      factorOf (some (.number x)) ≤ factorOf (some (.number y))) ∧
    ∀ v, factorOf v ≤ 9 := by
  refine ⟨fun n h => ?_, fun x y hx hy hle => ?_, factorOf_le⟩
  · have hnumber : (factorOf (some (.number (.integer n))) : ℤ) = min 9 (max 0 n) :=
      nearestFactor_ofInt h
    refine ⟨hnumber, fun p => ?_⟩
    rw [factorOf_text p h, hnumber]
  · rw [factorOf_number hx, factorOf_number hy]
    exact min_le_min_left 9 (Nat.floor_mono (by linarith))

/-- A large number with blanks and a sign, a small one with zeros, and two numbers between eight
and nine. -/
theorem factors_of_spellings :
    factorOf (some (.string "\u00a0 +18446744073709551615\u2003")) = 9 ∧
      factorOf (some (.string "-007")) = 0 ∧ factorOf (some (.string "007")) = 7 ∧
      factorOf (some (.number (.double (.finite false 17 (-1))))) ≤
        factorOf (some (.number (.integer 9))) := by
  obtain ⟨hinteger, hmono, -⟩ := factors_clamped_and_monotone
  have hlarge := (hinteger (2 ^ 64 - 1) ⟨by decide, by decide⟩).right
    ⟨['\u00a0', ' '], ['+'], 0, ['\u2003'], Text.forall_mem_of_all (by decide),
      Text.forall_mem_of_all (by decide), by decide⟩
  have hnegative := (hinteger (-7) ⟨by decide, by decide⟩).right
    ⟨[], ['-'], 2, [], List.forall_mem_nil _, List.forall_mem_nil _, by decide⟩
  have hsmall := (hinteger 7 ⟨by decide, by decide⟩).right
    ⟨[], [], 2, [], List.forall_mem_nil _, List.forall_mem_nil _, by decide⟩
  refine ⟨Int.ofNat_inj.1 hlarge, Int.ofNat_inj.1 hnegative, Int.ofNat_inj.1 hsmall, ?_⟩
  exact hmono _ _ rfl ⟨by decide, by decide⟩ (by norm_num [Json.Number.value, Binary.value])

end ThreatModel
