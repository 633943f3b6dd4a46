import Mathlib
import ThreatModel.Text.Blank
import ThreatModel.Text.Search

/-!
# Texts cut at separators

Cutting a text at a separator gives parts without it (`notMem_of_mem_splitOn`), putting such parts
together and cutting again gives them back (`splitOn_intercalate`), and cutting commutes with a map
of the characters that takes nothing else to the separator (`splitOn_map`). A part is empty where
separators have nothing on one side of them (`nil_mem_splitOn_iff`). The end of a text that has been
put together is in its last part (`intercalate_concat`).
-/

namespace ThreatModel.Text

variable {sep : Char} {cs w : List Char} {parts : List (List Char)}

/-! ### Separators -/

theorem splitOn_eq (sep : Char) (cs : List Char) : splitOn sep cs = cs.splitOn sep := by
  induction cs with
  | nil => rfl
  | cons c r ih =>
    rw [splitOn, List.splitOn, List.splitOnP_cons_eq_if_modifyHead, ih]
    by_cases hc : c = sep
    · rw [if_pos hc, if_pos (beq_iff_eq.2 hc)]
      rfl
    · rw [if_neg hc, if_neg (by simpa using hc)]
      change _ = (r.splitOn sep).modifyHead (List.cons c)
      cases h : r.splitOn sep with
      | nil => exact absurd h (List.splitOn_ne_nil sep r)
      | cons => rfl

theorem splitOn_ne_nil (sep : Char) (cs : List Char) : splitOn sep cs ≠ [] := by
  rw [splitOn_eq]
  exact List.splitOn_ne_nil sep cs

theorem intercalate_splitOn (sep : Char) (cs : List Char) :
    [sep].intercalate (splitOn sep cs) = cs := by
  rw [splitOn_eq]
  exact List.intercalate_splitOn sep

theorem splitOn_intercalate (hsep : ∀ p ∈ parts, sep ∉ p) (hparts : parts ≠ []) :
    splitOn sep ([sep].intercalate parts) = parts := by
  rw [splitOn_eq]
  exact List.splitOn_intercalate sep hsep hparts

/-- The parts have no separator in them. -/
theorem notMem_of_mem_splitOn (h : w ∈ splitOn sep cs) : sep ∉ w := by
  induction cs generalizing w with
  | nil =>
    obtain rfl := List.mem_singleton.1 h
    exact List.not_mem_nil
  | cons c r ih =>
    rw [splitOn] at h
    split_ifs at h with hc
    · rcases List.mem_cons.1 h with rfl | h
      · exact List.not_mem_nil
      · exact ih h
    · split at h
      next hr => exact absurd hr (splitOn_ne_nil sep r)
      next v vs hr =>
        rcases List.mem_cons.1 h with rfl | h
        · rw [List.mem_cons, not_or]
          exact ⟨Ne.symm hc, ih (hr ▸ List.mem_cons_self)⟩
        · exact ih (hr ▸ List.mem_cons_of_mem v h)

/-- What stands in texts with something between them. -/
theorem mem_intercalate {between : List Char} {c : Char} (h : c ∈ between.intercalate parts) :
    c ∈ between ∨ ∃ p ∈ parts, c ∈ p := by
  induction parts with
  | nil => simp at h
  | cons p ps ih =>
    cases ps with
    | nil => exact .inr ⟨p, List.mem_cons_self, by simpa using h⟩
    | cons q ps =>
      rw [List.intercalate_cons_cons, List.mem_append, List.mem_append] at h
      rcases h with (hc | hc) | hc
      · exact .inr ⟨p, List.mem_cons_self, hc⟩
      · exact .inl hc
      · exact (ih hc).imp_right fun ⟨u, hu, hcu⟩ => ⟨u, List.mem_cons_of_mem p hu, hcu⟩

theorem intercalate_ne_nil {between : List Char} (hw : w ≠ []) (parts : List (List Char)) :
    between.intercalate (w :: parts) ≠ [] := by
  cases parts with
  | nil => simpa using hw
  | cons p ps => simp [List.intercalate_cons_cons, hw]

theorem mem_intercalate_iff {c : Char} (hc : c ≠ sep) :
    c ∈ [sep].intercalate parts ↔ ∃ p ∈ parts, c ∈ p := by
  induction parts with
  | nil => simp
  | cons p ps ih =>
    cases ps with
    | nil => simp
    | cons q ps =>
      rw [List.intercalate_cons_cons, List.mem_append, List.mem_append, ih, List.mem_singleton,
        or_iff_left hc]
      simp only [List.mem_cons, exists_eq_or_imp]

theorem mem_of_mem_splitOn {c : Char} (h : w ∈ splitOn sep cs) (hc : c ∈ w) : c ∈ cs := by
  rw [← intercalate_splitOn sep cs,
    mem_intercalate_iff (ne_of_mem_of_not_mem hc (notMem_of_mem_splitOn h))]
  exact ⟨w, h, hc⟩

theorem splitOn_append_cons (sep : Char) (a b : List Char) :
    splitOn sep (a ++ sep :: b) = splitOn sep a ++ splitOn sep b := by
  rw [splitOn_eq, splitOn_eq, splitOn_eq]
  exact List.splitOn_append_cons_self a b

theorem of_nil_mem_parts (h : [] ∈ parts) :
    [sep].intercalate parts = [] ∨ ([sep].intercalate parts).head? = some sep ∨
      ([sep].intercalate parts).getLast? = some sep ∨
      [sep, sep] <:+: [sep].intercalate parts := by
  induction parts with
  | nil => cases h
  | cons p ps ih =>
    cases ps with
    | nil => exact .inl (by simpa using h)
    | cons q ps =>
      rw [List.intercalate_cons_cons]
      rcases List.mem_cons.1 h with rfl | h
      · exact .inr (.inl rfl)
      · rcases ih h with hnil | hhead | hlast | hpair
        · exact .inr (.inr (.inl (by simp [hnil])))
        · obtain ⟨r, hr⟩ := List.head?_eq_some_iff.1 hhead
          exact .inr (.inr (.inr ⟨p, r, by simp [hr]⟩))
        · exact .inr (.inr (.inl (by rw [List.getLast?_append, hlast, Option.some_or])))
        · exact .inr (.inr (.inr (hpair.trans (List.suffix_append (p ++ [sep]) _).isInfix)))

/-- A part is empty where a separator stands at an end of the text, or two of them stand side by
side. -/
theorem nil_mem_splitOn_iff :
    [] ∈ splitOn sep cs ↔
      cs = [] ∨ cs.head? = some sep ∨ cs.getLast? = some sep ∨ [sep, sep] <:+: cs := by
  have hnil (b : List Char) : [] ∈ splitOn sep (sep :: b) := by
    rw [splitOn, if_pos rfl]
    exact List.mem_cons_self
  constructor
  · intro h
    rw [← intercalate_splitOn sep cs]
    exact of_nil_mem_parts h
  · rintro (rfl | h | h | ⟨a, b, rfl⟩)
    · exact List.mem_cons_self
    · obtain ⟨b, rfl⟩ := List.head?_eq_some_iff.1 h
      exact hnil b
    · obtain ⟨a, rfl⟩ := List.getLast?_eq_some_iff.1 h
      rw [splitOn_append_cons]
      exact List.mem_append_right _ List.mem_cons_self
    · rw [List.append_assoc]
      exact (splitOn_append_cons sep a (sep :: b)).symm ▸ List.mem_append_right _ (hnil b)

theorem splitOn_map {f : Char → Char} (hf : ∀ c, f c = sep ↔ c = sep) (cs : List Char) :
    splitOn sep (cs.map f) = (splitOn sep cs).map (List.map f) := by
  induction cs with
  | nil => rfl
  | cons c r ih =>
    rw [List.map_cons, splitOn, splitOn, ih]
    by_cases hc : c = sep
    · rw [if_pos hc, if_pos ((hf c).2 hc), List.map_cons, List.map_nil]
    · rw [if_neg hc, if_neg (mt (hf c).1 hc)]
      cases splitOn sep r with
      | nil => rfl
      | cons => rfl

theorem eq_of_splitFirst? {a b : List Char} (h : splitFirst? sep cs = some (a, b)) :
    cs = a ++ sep :: b := by
  induction cs generalizing a with
  | nil => cases h
  | cons c r ih =>
    rw [splitFirst?] at h
    split_ifs at h with hc
    · cases h
      rw [hc]
      rfl
    · obtain ⟨⟨a', b'⟩, hr, heq⟩ := Option.map_eq_some_iff.1 h
      cases heq
      rw [ih hr]
      rfl

theorem eq_of_splitLast? {a b : List Char} (h : splitLast? sep cs = some (a, b)) :
    cs = a ++ sep :: b := by
  obtain ⟨⟨b', a'⟩, hr, heq⟩ := Option.map_eq_some_iff.1 h
  cases heq
  rw [← List.reverse_reverse cs, eq_of_splitFirst? hr]
  simp

theorem splitFirst?_map {f : Char → Char} (hf : ∀ c, f c = sep ↔ c = sep) (cs : List Char) :
    splitFirst? sep (cs.map f) = (splitFirst? sep cs).map (Prod.map (List.map f) (List.map f)) := by
  induction cs with
  | nil => rfl
  | cons c r ih =>
    rw [List.map_cons, splitFirst?, splitFirst?, ih]
    by_cases hc : c = sep
    · rw [if_pos hc, if_pos ((hf c).2 hc)]
      rfl
    · rw [if_neg hc, if_neg (mt (hf c).1 hc), Option.map_map, Option.map_map]
      rfl

theorem splitLast?_map {f : Char → Char} (hf : ∀ c, f c = sep ↔ c = sep) (cs : List Char) :
    splitLast? sep (cs.map f) = (splitLast? sep cs).map (Prod.map (List.map f) (List.map f)) := by
  rw [splitLast?, splitLast?, ← List.map_reverse, splitFirst?_map hf, Option.map_map,
    Option.map_map]
  congr 1
  funext p
  simp

theorem intercalate_append {more : List (List Char)} (hparts : parts ≠ []) (hmore : more ≠ []) :
    [sep].intercalate (parts ++ more) =
      [sep].intercalate parts ++ sep :: [sep].intercalate more := by
  induction parts with
  | nil => exact absurd rfl hparts
  | cons p ps ih =>
    cases ps with
    | nil => simp [List.intercalate_cons_of_ne_nil hmore]
    | cons q ps =>
      have hne : q :: ps ≠ [] := List.cons_ne_nil q ps
      rw [List.cons_append, List.intercalate_cons_of_ne_nil (by simp), ih hne,
        List.intercalate_cons_of_ne_nil hne]
      simp only [List.append_assoc]

theorem intercalate_concat (hparts : parts ≠ []) (last : List Char) :
    [sep].intercalate (parts ++ [last]) = [sep].intercalate parts ++ sep :: last := by
  rw [intercalate_append hparts (List.cons_ne_nil last []), List.intercalate_singleton]

theorem intercalate_concat_append (front : List (List Char)) (last w : List Char) :
    [sep].intercalate (front ++ [last ++ w]) = [sep].intercalate (front ++ [last]) ++ w := by
  rcases eq_or_ne front [] with rfl | hne
  · simp
  · rw [intercalate_concat hne, intercalate_concat hne, List.append_assoc, List.cons_append]

/-- Parts that are put together end in the last one. -/
theorem suffix_intercalate_concat (front : List (List Char)) (last : List Char) :
    last <:+ [sep].intercalate (front ++ [last]) :=
  ⟨[sep].intercalate (front ++ [[]]), (intercalate_concat_append front [] last).symm⟩

/-- A part without `sep` and the `sep` behind it stand in front of what goes as far as some
`sep`. -/
theorem exists_of_append_cons_eq {a b b' : List Char} (hw : sep ∉ w)
    (h : w ++ sep :: b = a ++ sep :: b') : ∃ v, a ++ [sep] = w ++ sep :: v ∧ b = v ++ b' := by
  induction w generalizing a with
  | nil =>
    cases a with
    | nil =>
      obtain ⟨-, rfl⟩ := List.cons.inj h
      exact ⟨[], rfl, rfl⟩
    | cons c r =>
      obtain ⟨rfl, rfl⟩ := List.cons.inj h
      exact ⟨r ++ [sep], rfl, List.append_cons r sep b'⟩
  | cons c w ih =>
    obtain ⟨hc, hw⟩ := List.ne_and_not_mem_of_not_mem_cons hw
    cases a with
    | nil => exact absurd (List.cons.inj h).1.symm hc
    | cons d r =>
      obtain ⟨rfl, hrest⟩ := List.cons.inj h
      obtain ⟨v, hv, hb⟩ := ih hw hrest
      exact ⟨v, congrArg (c :: ·) hv, hb⟩

/-- A text without `sep` at the end of another one is behind every `sep` in it. -/
theorem suffix_of_suffix_append_cons {a b : List Char} (hw : sep ∉ w) (h : w <:+ a ++ sep :: b) :
    w <:+ b := by
  rcases List.suffix_or_suffix_of_suffix h (List.suffix_append a (sep :: b)) with h | h
  · rcases List.suffix_cons_iff.1 h with rfl | h
    · exact absurd List.mem_cons_self hw
    · exact h
  · exact absurd (h.subset List.mem_cons_self) hw

end ThreatModel.Text
