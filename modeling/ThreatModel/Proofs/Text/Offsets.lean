import ThreatModel.Proofs.Text.Splitting

/-!
# Offsets in bytes

A place in a text can be given by the number of bytes of UTF-8 in front of it. Not every number is a
place: some are behind the end of the text, others inside of a character. A text is cut at places
only (`cutAt?`), and these are the valid positions of its string (`isSome_cutAt?_iff`).

A slice from or up to an offset is there if the offset is the length of some front, and is then what
stands behind that front or the front itself (`fromByte?_utf8Length`, `toByte?_utf8Length`).
-/

namespace ThreatModel.Text

variable {n : Nat} {c : Char} {cs a b : List Char}

/-! ### Slices -/

theorem utf8Length_toList (s : String) : utf8Length s.toList = s.utf8ByteSize := by
  obtain ⟨cs, rfl⟩ : ∃ cs, s = String.ofList cs := ⟨s.toList, String.ofList_toList.symm⟩
  rw [String.toList_ofList, String.utf8ByteSize_ofList]
  induction cs with
  | nil => rfl
  | cons c cs ih => rw [utf8Length_cons, String.utf8Len_cons, ih, Nat.add_comm]

theorem splitBytes_utf8Length (a b : List Char) : splitBytes (utf8Length a) (a ++ b) = (a, b) := by
  induction a with
  | nil =>
    cases b with
    | nil => rfl
    | cons c b =>
      have hsize : ¬ c.utf8Size ≤ 0 := Nat.not_le.2 c.utf8Size_pos
      rw [List.nil_append, utf8Length_nil, splitBytes, if_neg hsize]
  | cons c a ih =>
    rw [List.cons_append, utf8Length_cons, splitBytes, if_pos (Nat.le_add_right _ _),
      Nat.add_sub_cancel_left, ih]

theorem utf8Length_concat (a : List Char) (c : Char) :
    utf8Length (a ++ [c]) = utf8Length a + c.utf8Size := by
  rw [utf8Length_append, utf8Length_cons, utf8Length_nil, Nat.add_zero]

theorem splitBytes_append (n : Nat) (cs : List Char) :
    (splitBytes n cs).1 ++ (splitBytes n cs).2 = cs := by
  induction cs generalizing n with
  | nil => rfl
  | cons c cs ih =>
    rw [splitBytes]
    split_ifs
    · exact congrArg (c :: ·) (ih _)
    · rfl

/-- A text cut at an offset; nothing if the offset is behind its end or inside of a character. -/
def cutAt? (n : Nat) (cs : List Char) : Option (List Char × List Char) :=
  if utf8Length (splitBytes n cs).1 = n then some (splitBytes n cs) else none

/-- The slice from an offset on. -/
def fromByte? (n : Nat) (cs : List Char) : Option (List Char) := (cutAt? n cs).map (·.2)

/-- The slice up to an offset. -/
def toByte? (n : Nat) (cs : List Char) : Option (List Char) := (cutAt? n cs).map (·.1)

theorem cutAt?_eq_some_iff : cutAt? n cs = some (a, b) ↔ a ++ b = cs ∧ utf8Length a = n := by
  constructor
  · intro h
    obtain ⟨hn, hp⟩ := Option.ite_none_right_eq_some.1 h
    have happend := splitBytes_append n cs
    rw [Option.some.inj hp] at hn happend
    exact ⟨happend, hn⟩
  · rintro ⟨rfl, rfl⟩
    rw [cutAt?, splitBytes_utf8Length, if_pos rfl]

/-- **A text is cut at the positions of its string**, and nowhere else. -/
theorem isSome_cutAt?_iff :
    (cutAt? n cs).isSome = true ↔ String.Pos.Raw.IsValid (String.ofList cs) ⟨n⟩ := by
  rw [String.Pos.Raw.isValid_iff_exists_append, Option.isSome_iff_exists]
  constructor
  · rintro ⟨⟨a, b⟩, h⟩
    obtain ⟨rfl, rfl⟩ := cutAt?_eq_some_iff.1 h
    refine ⟨String.ofList a, String.ofList b, String.ofList_append, ?_⟩
    rw [String.Pos.Raw.ext_iff, String.byteIdx_rawEndPos, ← utf8Length_toList, String.toList_ofList]
  · rintro ⟨s, t, hst, hn⟩
    refine ⟨(s.toList, t.toList), cutAt?_eq_some_iff.2 ⟨?_, ?_⟩⟩
    · rw [← String.toList_append, ← hst, String.toList_ofList]
    · rw [utf8Length_toList, ← String.byteIdx_rawEndPos, ← hn]

theorem fromByte?_utf8Length (a b : List Char) : fromByte? (utf8Length a) (a ++ b) = some b := by
  rw [fromByte?, cutAt?_eq_some_iff.2 ⟨rfl, rfl⟩, Option.map_some]

theorem toByte?_utf8Length (a b : List Char) : toByte? (utf8Length a) (a ++ b) = some a := by
  rw [toByte?, cutAt?_eq_some_iff.2 ⟨rfl, rfl⟩, Option.map_some]

/-- The slice behind a character of one byte. -/
theorem fromByte?_succ (hc : c.utf8Size = 1) (a b : List Char) :
    fromByte? (utf8Length a + 1) (a ++ c :: b) = some b := by
  rw [List.append_cons, ← fromByte?_utf8Length (a ++ [c]) b, utf8Length_concat, hc]

/-- The slice up to and with a character of one byte. -/
theorem toByte?_succ (hc : c.utf8Size = 1) (a b : List Char) :
    toByte? (utf8Length a + 1) (a ++ c :: b) = some (a ++ [c]) := by
  rw [List.append_cons, ← toByte?_utf8Length (a ++ [c]) b, utf8Length_concat, hc]

/-! ### Offsets of occurrences -/

/-- The offset of the first occurrence of a text. -/
def offset? (needle cs : List Char) : Option Nat :=
  (splitAt? needle cs).map fun p => utf8Length p.1

/-- The offset of the last occurrence of a character. -/
def lastOffset? (c : Char) (cs : List Char) : Option Nat :=
  (splitLast? c cs).map fun p => utf8Length p.1

/-- The offsets of all occurrences of a character, in a text that starts at the offset `n`. -/
def offsetsOf (c : Char) (n : Nat) : List Char → List Nat
  | [] => []
  | d :: r => if d = c then n :: offsetsOf c (n + d.utf8Size) r else offsetsOf c (n + d.utf8Size) r

theorem offset?_singleton (ha : c ∉ a) (r : List Char) :
    offset? [c] (a ++ c :: r) = some (utf8Length a) := by
  rw [offset?, splitAt?_singleton ha, Option.map_some]

/-- Fronts of one text are compared by their bytes as by their characters. -/
theorem utf8Length_lt_iff {a' b' : List Char} (h : a ++ b = a' ++ b') :
    utf8Length a < utf8Length a' ↔ a.length < a'.length := by
  have hpos {s : List Char} (hs : s ≠ []) : 0 < utf8Length s := by
    obtain ⟨c, s, rfl⟩ := List.exists_cons_of_ne_nil hs
    rw [utf8Length_cons]
    exact Nat.add_pos_left c.utf8Size_pos _
  rcases List.append_eq_append_iff.1 h with ⟨s, rfl, -⟩ | ⟨s, rfl, -⟩
  · rw [utf8Length_append, List.length_append, Nat.lt_add_right_iff_pos, Nat.lt_add_right_iff_pos,
      List.length_pos_iff]
    exact ⟨fun h hs => by simp [hs] at h, hpos⟩
  · rw [utf8Length_append, List.length_append]
    omega

end ThreatModel.Text
