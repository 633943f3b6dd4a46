import Mathlib
import ThreatModel.Diagram.Label
import ThreatModel.Proofs.Text.Classes
import ThreatModel.Proofs.Text.Separators
import ThreatModel.Proofs.Text.Splitting

/-!
# Labels

Whatever a text holds, its label can stand between quotes in a line of a flowchart
(`isLabel_label`): it is not empty, no character of it means anything in flowcharts or is a control
character, and its only blanks are spaces, so that no line ends in it.

More than that, a label is in normal form: it is made of words with single spaces between them
(`IsNormal`, `isNormal_iff`). The texts in normal form are their own labels, so that a label of a
label is nothing new, and the label of two texts with a gap between them is made of their labels
alone (`label_projects`). What a text loses are gaps, the runs of blanks and of characters that a
label may not hold (`IsGap`). A text of nothing else is an exception: its label `unnamed` is a word
that the text does not have, and goes when the text is joined to another one.
-/

namespace ThreatModel.Diagram

/-! ### Labels -/

/-- A text that can stand between quotes in a line. -/
structure IsLabel (cs : List Char) : Prop where
  ne_nil : cs ≠ []
  notMem_reserved : ∀ c ∈ cs, c ∉ reserved
  not_isControl : ∀ c ∈ cs, Text.isControl c = false
  /-- The only blanks are spaces. -/
  eq_space : ∀ c ∈ cs, Text.isBlank c = true → c = ' '

theorem isReserved_eq_false_iff {c : Char} :
    isReserved c = false ↔ c ∉ reserved ∧ Text.isControl c = false := by
  simp [isReserved]

/-- A word of a label: its characters mean nothing, and none of them is a blank. -/
structure IsWord (w : List Char) : Prop where
  ne_nil : w ≠ []
  plain : ∀ c ∈ w, isReserved c = false ∧ Text.isBlank c = false

theorem isWord_of_mem_labelWords {s : String} {w : List Char} (hw : w ∈ labelWords s) :
    IsWord w where
  ne_nil := Text.ne_nil_of_mem_words hw
  plain c hc := by
    have hblank : Text.isBlank c = false := Text.not_isBlank_of_mem_words hw hc
    obtain ⟨d, -, hd⟩ := List.mem_map.1 (Text.mem_of_mem_words hw hc)
    split_ifs at hd with hreserved
    · subst hd
      cases hblank
    · subst hd
      exact ⟨Bool.eq_false_iff.2 hreserved, hblank⟩

theorem isWord_unnamed : IsWord unnamed.toList where
  ne_nil := by decide
  plain := by simp [unnamed, isReserved, reserved, Text.isControl, Text.isBlank]

theorem label_of_labelWords_eq_nil {s : String} (h : labelWords s = []) : label s = unnamed := by
  rw [label, h]

theorem toList_label {s : String} (h : labelWords s ≠ []) :
    (label s).toList = [' '].intercalate (labelWords s) := by
  unfold label
  cases hs : labelWords s with
  | nil => exact absurd hs h
  | cons w ws =>
    rw [String.toList_intercalate, List.map_map]
    simp [Function.comp_def]

/-- A label is made of words with spaces between them. -/
theorem exists_words_label (s : String) :
    ∃ ws, ws ≠ [] ∧ (∀ w ∈ ws, IsWord w) ∧ (label s).toList = [' '].intercalate ws := by
  by_cases h : labelWords s = []
  · rw [label_of_labelWords_eq_nil h]
    exact ⟨[unnamed.toList], List.cons_ne_nil _ _, by simpa using isWord_unnamed, by simp⟩
  · exact ⟨labelWords s, h, fun _ => isWord_of_mem_labelWords, toList_label h⟩

theorem isLabel_of_forall {cs : List Char} (hne : cs ≠ [])
    (h : ∀ c ∈ cs, c = ' ' ∨ isReserved c = false ∧ Text.isBlank c = false) : IsLabel cs where
  ne_nil := hne
  notMem_reserved c hc := by
    rcases h c hc with rfl | ⟨hc, -⟩
    · decide
    · exact (isReserved_eq_false_iff.1 hc).1
  not_isControl c hc := by
    rcases h c hc with rfl | ⟨hc, -⟩
    · rfl
    · exact (isReserved_eq_false_iff.1 hc).2
  eq_space c hc hblank := by
    rcases h c hc with rfl | ⟨-, hc⟩
    · rfl
    · rw [hc] at hblank
      cases hblank

theorem isLabel_intercalate {ws : List (List Char)} (hne : ws ≠ []) (h : ∀ w ∈ ws, IsWord w) :
    IsLabel ([' '].intercalate ws) := by
  obtain ⟨w, ws, rfl⟩ := List.exists_cons_of_ne_nil hne
  refine isLabel_of_forall (Text.intercalate_ne_nil (h w List.mem_cons_self).ne_nil ws) ?_
  intro c hc
  refine (Text.mem_intercalate hc).imp List.mem_singleton.1 ?_
  rintro ⟨v, hv, hcv⟩
  exact (h v hv).plain c hcv

/-- **Every label can stand between quotes.** -/
theorem isLabel_label (s : String) : IsLabel (label s).toList := by
  obtain ⟨ws, hne, hwords, hs⟩ := exists_words_label s
  rw [hs]
  exact isLabel_intercalate hne hwords

example : label "Svc \"A\"\n[v2]\t(x)" = "Svc A v2 x" := by decide

/-! ### Gaps -/

variable {s x y sep : String} {c : Char} {cs w : List Char} {ws : List (List Char)}

/-- A gap between words. -/
structure IsGap (cs : List Char) : Prop where
  ne_nil : cs ≠ []
  separates : ∀ c ∈ cs, c ∈ reserved ∨ Text.isControl c = true ∨ Text.isBlank c = true

/-- A character as the words of a label are taken from it. -/
def blanked (c : Char) : Char := if isReserved c then ' ' else c

theorem labelWords_eq (s : String) : labelWords s = Text.words (s.toList.map blanked) := rfl

theorem isBlank_blanked (h : isReserved c = true ∨ Text.isBlank c = true) :
    Text.isBlank (blanked c) = true := by
  rw [blanked]
  split_ifs with hreserved
  · rfl
  · exact h.resolve_left hreserved

theorem IsGap.isBlank_of_mem_map (h : IsGap cs) (hc : c ∈ cs.map blanked) :
    Text.isBlank c = true := by
  obtain ⟨d, hd, rfl⟩ := List.mem_map.1 hc
  refine isBlank_blanked ?_
  rcases h.separates d hd with hmem | hcontrol | hblank
  · exact .inl (by simp [isReserved, hmem])
  · exact .inl (by simp [isReserved, hcontrol])
  · exact .inr hblank

/-- A gap keeps the words on its sides apart. -/
theorem labelWords_append (h : IsGap sep.toList) (x y : String) :
    labelWords (x ++ sep ++ y) = labelWords x ++ labelWords y := by
  rw [labelWords_eq, String.toList_append, String.toList_append, List.append_assoc,
    List.map_append, List.map_append]
  exact Text.words_append (by simpa using h.ne_nil) (fun _ => h.isBlank_of_mem_map) _ _

/-- Words with spaces between them. -/
theorem labelWords_intercalate (h : ∀ w ∈ ws, IsWord w) :
    labelWords (String.ofList ([' '].intercalate ws)) = ws := by
  have hsame : ∀ c ∈ [' '].intercalate ws, blanked c = c := by
    intro c hc
    rcases Text.mem_intercalate hc with hc | ⟨w, hw, hc⟩
    · obtain rfl := List.mem_singleton.1 hc
      rfl
    · rw [blanked, ((h w hw).plain c hc).1]
      rfl
  rw [labelWords_eq, String.toList_ofList, List.map_congr_left hsame, List.map_id']
  exact Text.words_intercalate fun w hw => ⟨(h w hw).ne_nil, fun c hc => ((h w hw).plain c hc).2⟩

/-! ### The normal form -/

/-- The normal form of labels: its only blanks are spaces (`IsLabel.eq_space`), and each of them
stands alone between words. -/
structure IsNormal (cs : List Char) : Prop extends IsLabel cs where
  head_ne : cs.head? ≠ some ' '
  last_ne : cs.getLast? ≠ some ' '
  single : ¬ [' ', ' '] <:+: cs

/-- A text is in normal form if it is made of words with spaces between them. -/
theorem isNormal_iff :
    IsNormal cs ↔ ∃ ws, ws ≠ [] ∧ (∀ w ∈ ws, IsWord w) ∧ cs = [' '].intercalate ws := by
  constructor
  · intro h
    refine ⟨Text.splitOn ' ' cs, Text.splitOn_ne_nil ' ' cs, fun w hw => ⟨?_, ?_⟩,
      (Text.intercalate_splitOn ' ' cs).symm⟩
    · rintro rfl
      rcases Text.nil_mem_splitOn_iff.1 hw with hnil | hhead | hlast | hdouble
      · exact h.ne_nil hnil
      · exact h.head_ne hhead
      · exact h.last_ne hlast
      · exact h.single hdouble
    · intro c hc
      have hmem := Text.mem_of_mem_splitOn hw hc
      refine ⟨isReserved_eq_false_iff.2 ⟨h.notMem_reserved c hmem, h.not_isControl c hmem⟩, ?_⟩
      rw [← Bool.not_eq_true]
      intro hblank
      exact Text.notMem_of_mem_splitOn hw (h.eq_space c hmem hblank ▸ hc)
  · rintro ⟨ws, hws, hwords, rfl⟩
    have hspace : ∀ w ∈ ws, ' ' ∉ w := fun w hw hmem =>
      absurd ((hwords w hw).plain ' ' hmem).2 (by decide)
    have hnil : [] ∉ Text.splitOn ' ' ([' '].intercalate ws) := by
      rw [Text.splitOn_intercalate hspace hws]
      exact fun h => (hwords [] h).ne_nil rfl
    rw [Text.nil_mem_splitOn_iff, not_or, not_or, not_or] at hnil
    obtain ⟨-, hhead, hlast, hdouble⟩ := hnil
    exact ⟨isLabel_intercalate hws hwords, hhead, hlast, hdouble⟩

theorem isNormal_label (s : String) : IsNormal (label s).toList :=
  isNormal_iff.2 (exists_words_label s)

/-- The texts in normal form are those that labelling leaves alone. -/
theorem label_eq_self_iff : label s = s ↔ IsNormal s.toList := by
  constructor
  · intro h
    exact h ▸ isNormal_label s
  · intro h
    obtain ⟨ws, hws, hwords, hs⟩ := isNormal_iff.1 h
    have hread : labelWords s = ws := by
      rw [← labelWords_intercalate hwords, ← hs, String.ofList_toList]
    refine String.toList_inj.1 ?_
    rw [toList_label (hread ▸ hws), hread, hs]

theorem labelWords_ne_nil (h : label s ≠ unnamed) : labelWords s ≠ [] :=
  fun hnil => h (label_of_labelWords_eq_nil hnil)

/-- The label of two texts with a gap between them. -/
theorem label_append (hsep : IsGap sep.toList) (hx : labelWords x ≠ []) (hy : labelWords y ≠ []) :
    label (x ++ sep ++ y) = label x ++ " " ++ label y := by
  have hwords : labelWords (x ++ sep ++ y) = labelWords x ++ labelWords y :=
    labelWords_append hsep x y
  have hne : labelWords (x ++ sep ++ y) ≠ [] := hwords ▸ List.append_ne_nil_of_left_ne_nil hx _
  refine String.toList_inj.1 ?_
  rw [toList_label hne, hwords, Text.intercalate_append hx hy, String.toList_append,
    String.toList_append, toList_label hx, toList_label hy, List.append_assoc]
  rfl

/-- **Labelling is a projection onto the normal form.** All labels are in it, what is in it is its
own label, and the label of texts on both sides of a gap is made of their labels, if both have
words. -/
theorem label_projects (s x sep y : String) :
    IsNormal (label s).toList ∧ label (label s) = label s ∧ (label s = s ↔ IsNormal s.toList) ∧
      (IsGap sep.toList → label x ≠ unnamed → label y ≠ unnamed →
        label (x ++ sep ++ y) = label x ++ " " ++ label y) :=
  ⟨isNormal_label s, label_eq_self_iff.2 (isNormal_label s), label_eq_self_iff,
    fun hsep hx hy => label_append hsep (labelWords_ne_nil hx) (labelWords_ne_nil hy)⟩

/-- A gap of a control character, a bracket and a wide space, with junk on both sides of it. -/
theorem label_projects_of_gap :
    IsGap "\u0085(\u3000".toList ∧ label "Svc \"A\"" ≠ unnamed ∧ label "\t[v2]" ≠ unnamed ∧
      label ("Svc \"A\"" ++ "\u0085(\u3000" ++ "\t[v2]") = "Svc A v2" := by
  have hsep : IsGap "\u0085(\u3000".toList := ⟨by decide, Text.forall_mem_of_all (by decide)⟩
  have hx : label "Svc \"A\"" ≠ unnamed := by decide
  have hy : label "\t[v2]" ≠ unnamed := by decide
  obtain ⟨-, -, -, hlabel⟩ := label_projects "" "Svc \"A\"" "\u0085(\u3000" "\t[v2]"
  exact ⟨hsep, hx, hy, (hlabel hsep hx hy).trans (by decide)⟩

end ThreatModel.Diagram
