import Mathlib
import ThreatModel.Threat.Identity

/-!
# The order of bytes

Texts are compared character by character. Their UTF-8 bytes are in the same order
(`utf8Bytes_le_utf8Bytes`): of two characters the one with the larger number is never encoded in
fewer bytes, the first byte is larger if there are more of them, and otherwise the encodings differ
in bytes that hold digits of the two numbers, the most significant first
(`utf8EncodeChar_append_lt`).
-/

namespace ThreatModel

/-! ### The bytes of a text -/

theorem byteArray_toList_loop (bs : ByteArray) (i : ℕ) (r : List UInt8) :
    ByteArray.toList.loop bs i r = r.reverse ++ bs.data.toList.drop i := by
  fun_induction ByteArray.toList.loop bs i r with
  | case1 i r h ih =>
    have hi : i < bs.data.toList.length := h
    rw [ih, List.drop_eq_getElem_cons hi, List.reverse_cons, List.append_assoc,
      List.singleton_append]
    simp [ByteArray.get!, h]
  | case2 i r h =>
    have hi : bs.data.toList.length ≤ i := Nat.le_of_not_lt h
    rw [List.drop_eq_nil_of_le hi, List.append_nil]

/-- The bytes of a text are those of its characters, one after the other. -/
theorem utf8Bytes_eq_flatMap (s : String) :
    utf8Bytes s = s.toList.flatMap String.utf8EncodeChar := by
  obtain ⟨cs, rfl⟩ : ∃ cs, s = String.ofList cs := ⟨s.toList, String.ofList_toList.symm⟩
  rw [utf8Bytes, String.toUTF8_eq_toByteArray, String.toByteArray_ofList, ByteArray.toList,
    byteArray_toList_loop, List.utf8Encode, List.toList_data_toByteArray, String.toList_ofList]
  rfl

/-! ### The order of encodings -/

theorem uint8_ofNat_lt_iff {m n : ℕ} (hm : m < 256) (hn : n < 256) :
    UInt8.ofNat m < UInt8.ofNat n ↔ m < n := UInt8.ofNat_lt_iff_lt hm hn

theorem uint8_ofNat_inj {m n : ℕ} (hm : m < 256) (hn : n < 256) :
    UInt8.ofNat m = UInt8.ofNat n ↔ m = n := by
  rw [← UInt8.toNat_inj, UInt8.toNat_ofNat', UInt8.toNat_ofNat', Nat.mod_eq_of_lt hm,
    Nat.mod_eq_of_lt hn]

/-- The first digit to base 64 in which the smaller of two numbers differs is smaller. -/
theorem base64_lt {v w : ℕ} (h : v < w) :
    v / 262144 < w / 262144 ∨ (v / 262144 = w / 262144 ∧
      (v / 4096 % 64 < w / 4096 % 64 ∨ (v / 4096 % 64 = w / 4096 % 64 ∧
        (v / 64 % 64 < w / 64 % 64 ∨ (v / 64 % 64 = w / 64 % 64 ∧ v % 64 < w % 64))))) := by
  have hstep {a b : ℕ} (h : a < b) : a / 64 < b / 64 ∨ (a / 64 = b / 64 ∧ a % 64 < b % 64) := by
    omega
  rcases hstep h with h₁ | ⟨h₁, hlow⟩
  · rcases hstep h₁ with h₂ | ⟨h₂, hlow⟩
    · rcases hstep h₂ with h₃ | ⟨h₃, hlow⟩
      · exact .inl (by simpa only [Nat.div_div_eq_div_mul] using h₃)
      · simp only [Nat.div_div_eq_div_mul] at h₃ hlow
        exact .inr ⟨h₃, .inl hlow⟩
    · simp only [Nat.div_div_eq_div_mul] at h₂ hlow
      exact .inr ⟨by omega, .inr ⟨by omega, .inl hlow⟩⟩
  · exact .inr ⟨by omega, .inr ⟨by omega, .inr ⟨by omega, hlow⟩⟩⟩

/-- What follows two different characters does not change the order of their encodings. -/
theorem utf8EncodeChar_append_lt {c d : Char} (h : c < d) (xs ys : List UInt8) :
    String.utf8EncodeChar c ++ xs < String.utf8EncodeChar d ++ ys := by
  have hlt : c.val.toNat < d.val.toNat := UInt32.lt_iff_toNat_lt.1 (Char.lt_def.1 h)
  have hmax : d.val.toNat < 0x110000 := by
    rcases d.valid with hd | hd
    · exact Nat.lt_trans hd (by decide)
    · exact hd.2
  have hleadc : c.val.toNat / 262144 % 8 = c.val.toNat / 262144 := Nat.mod_eq_of_lt (by omega)
  have hleadd : d.val.toNat / 262144 % 8 = d.val.toNat / 262144 := Nat.mod_eq_of_lt (by omega)
  have hdigits := base64_lt hlt
  simp only [String.utf8EncodeChar]
  -- One case for each pair of lengths. With one length the first digit that differs decides, with
  -- different lengths the first byte.
  split_ifs
  all_goals
    simp (disch := omega) only [List.cons_append, List.nil_append, List.cons_lt_cons_iff, hleadc,
      hleadd, uint8_ofNat_lt_iff, uint8_ofNat_inj, Nat.add_lt_add_iff_right,
      Nat.add_right_cancel_iff]
    omega

theorem utf8EncodeChar_ne_nil (c : Char) : String.utf8EncodeChar c ≠ [] := by
  intro h
  have hlen := String.length_utf8EncodeChar c
  rw [h, List.length_nil] at hlen
  exact absurd hlen.symm (Nat.ne_of_gt c.utf8Size_pos)

/-- The bytes of a larger text are larger. -/
theorem flatMap_utf8EncodeChar_lt {cs ds : List Char} (h : cs < ds) :
    cs.flatMap String.utf8EncodeChar < ds.flatMap String.utf8EncodeChar := by
  induction ds generalizing cs with
  | nil => exact absurd h (List.not_lt_nil cs)
  | cons d ds ih =>
    cases cs with
    | nil =>
      obtain ⟨b, bs, hb⟩ := List.exists_cons_of_ne_nil (utf8EncodeChar_ne_nil d)
      rw [List.flatMap_cons, hb]
      exact List.nil_lt_cons b _
    | cons c cs =>
      rw [List.flatMap_cons, List.flatMap_cons]
      rcases List.cons_lt_cons_iff.1 h with hc | ⟨rfl, hcs⟩
      · exact utf8EncodeChar_append_lt hc _ _
      · exact List.append_left_lt (ih hcs)

theorem utf8Bytes_lt_utf8Bytes {s t : String} : utf8Bytes s < utf8Bytes t ↔ s < t := by
  rw [utf8Bytes_eq_flatMap, utf8Bytes_eq_flatMap, String.lt_iff_toList_lt]
  constructor
  · intro h
    rcases lt_trichotomy s.toList t.toList with hlt | heq | hgt
    · exact hlt
    · rw [heq] at h
      exact absurd h (List.lt_irrefl _)
    · exact absurd h (List.lt_asymm (flatMap_utf8EncodeChar_lt hgt))
  · exact flatMap_utf8EncodeChar_lt

/-- **Texts are in the order of their bytes.** -/
theorem utf8Bytes_le_utf8Bytes {s t : String} : utf8Bytes s ≤ utf8Bytes t ↔ s ≤ t := by
  rw [← List.not_lt, utf8Bytes_lt_utf8Bytes, not_lt]

/-- Different texts have different bytes. -/
theorem utf8Bytes_inj {s t : String} : utf8Bytes s = utf8Bytes t ↔ s = t := by
  constructor
  · intro h
    exact le_antisymm (utf8Bytes_le_utf8Bytes.1 (h ▸ List.le_refl _))
      (utf8Bytes_le_utf8Bytes.1 (h ▸ List.le_refl _))
  · exact congrArg utf8Bytes

end ThreatModel
