import Mathlib
import ThreatModel.Text.Blank

/-!
# Classes of characters

The printed characters of ASCII, the letters and digits among them, are neither blanks nor control
characters. Six characters are both (`mem_of_isBlank_of_isControl`).
-/

namespace ThreatModel.Text

variable {c : Char}

/-- What holds of all numbers below 128 as characters holds of the characters of ASCII. -/
theorem of_ascii {P : Char → Prop} (hall : ∀ n < 0x80, P (Char.ofNat n)) (h : c.toNat < 0x80) :
    P c :=
  Char.ofNat_toNat c ▸ hall c.toNat h

/-- What holds of each character of a written text; `decide` would go through all characters that
there are for the quantifier alone. -/
theorem forall_mem_of_all {P : Char → Prop} [DecidablePred P] {cs : List Char}
    (h : (cs.all fun c => decide (P c)) = true) : ∀ c ∈ cs, P c :=
  fun c hc => of_decide_eq_true (List.all_eq_true.1 h c hc)

/-- The printed characters of ASCII are no blanks. -/
theorem not_isBlank_of_ascii (h : 33 ≤ c.toNat) (h' : c.toNat ≤ 126) : isBlank c = false := by
  simp only [isBlank, Bool.or_eq_false_iff, Bool.and_eq_false_iff, beq_eq_false_iff_ne,
    decide_eq_false_iff_not]
  omega

theorem not_isControl_of_ascii (h : 33 ≤ c.toNat) (h' : c.toNat ≤ 126) : isControl c = false := by
  simp only [isControl, Bool.or_eq_false_iff, Bool.and_eq_false_iff, decide_eq_false_iff_not]
  omega

theorem ascii_of_isDigit (h : c.isDigit = true) : 33 ≤ c.toNat ∧ c.toNat ≤ 126 := by
  simp only [Char.isDigit, Bool.and_eq_true, decide_eq_true_eq, UInt32.le_iff_toNat_le] at h
  exact ⟨Nat.le_trans (by decide) h.1, Nat.le_trans h.2 (by decide)⟩

theorem ascii_of_isAlpha (h : c.isAlpha = true) : 33 ≤ c.toNat ∧ c.toNat ≤ 126 := by
  simp only [Char.isAlpha, Char.isUpper, Char.isLower, Bool.or_eq_true, Bool.and_eq_true,
    decide_eq_true_eq, UInt32.le_iff_toNat_le, ge_iff_le] at h
  rcases h with h | h
  · exact ⟨Nat.le_trans (by decide) h.1, Nat.le_trans h.2 (by decide)⟩
  · exact ⟨Nat.le_trans (by decide) h.1, Nat.le_trans h.2 (by decide)⟩

theorem ascii_of_isAlphanum (h : c.isAlphanum = true) : 33 ≤ c.toNat ∧ c.toNat ≤ 126 := by
  rcases Bool.or_eq_true .. ▸ h with h | h
  · exact ascii_of_isAlpha h
  · exact ascii_of_isDigit h

/-- What holds of the letters of ASCII, found by looking at each of them. -/
theorem of_isAlpha {P : Char → Prop}
    (hall : ∀ n < 0x80, (Char.ofNat n).isAlpha = true → P (Char.ofNat n)) (h : c.isAlpha = true) :
    P c :=
  of_ascii (P := fun c => c.isAlpha = true → P c) hall
    (Nat.lt_of_le_of_lt (ascii_of_isAlpha h).2 (by decide)) h

theorem not_isDigit_of_isAlpha (h : c.isAlpha = true) : c.isDigit = false :=
  of_isAlpha (P := fun c => c.isDigit = false) (by decide) h

/-- What holds of the letters and digits of ASCII, found by looking at each of them. -/
theorem of_isAlphanum {P : Char → Prop}
    (hall : ∀ n < 0x80, (Char.ofNat n).isAlphanum = true → P (Char.ofNat n))
    (h : c.isAlphanum = true) : P c :=
  of_ascii (P := fun c => c.isAlphanum = true → P c) hall
    (Nat.lt_of_le_of_lt (ascii_of_isAlphanum h).2 (by decide)) h

theorem isAlphanum_of_isDigit (h : c.isDigit = true) : c.isAlphanum = true := by
  rw [Char.isAlphanum, h, Bool.or_true]

theorem not_isBlank_of_isDigit (h : c.isDigit = true) : isBlank c = false :=
  not_isBlank_of_ascii (ascii_of_isDigit h).1 (ascii_of_isDigit h).2

theorem not_isBlank_of_isAlpha (h : c.isAlpha = true) : isBlank c = false :=
  not_isBlank_of_ascii (ascii_of_isAlpha h).1 (ascii_of_isAlpha h).2

theorem not_isBlank_of_isAlphanum (h : c.isAlphanum = true) : isBlank c = false :=
  not_isBlank_of_ascii (ascii_of_isAlphanum h).1 (ascii_of_isAlphanum h).2

theorem not_isControl_of_isAlphanum (h : c.isAlphanum = true) : isControl c = false :=
  not_isControl_of_ascii (ascii_of_isAlphanum h).1 (ascii_of_isAlphanum h).2

/-- Tabs, the ends of lines and of pages. -/
theorem mem_of_isBlank_of_isControl (h : isBlank c = true) (h' : isControl c = true) :
    c ∈ ['\t', '\n', '\x0b', '\x0c', '\r', '\u0085'] := by
  have hn : c.toNat = 9 ∨ c.toNat = 10 ∨ c.toNat = 11 ∨ c.toNat = 12 ∨ c.toNat = 13 ∨
      c.toNat = 0x85 := by
    simp only [isBlank, isControl, Bool.or_eq_true, Bool.and_eq_true, beq_iff_eq,
      decide_eq_true_eq] at h h'
    omega
  rw [← Char.ofNat_toNat c]
  rcases hn with hn | hn | hn | hn | hn | hn <;> rw [hn] <;> decide

end ThreatModel.Text
