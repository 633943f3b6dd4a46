import ThreatModel.Proofs.Scan.Places
import ThreatModel.Proofs.Text.Bytes
import ThreatModel.Proofs.Text.Offsets
import ThreatModel.Proofs.Text.Separators

/-!
# Lines and snippets agree

A finding has the number of a line and a snippet, and these come from different searches: the number
counts the line breaks in front of a place, and the snippet is cut out between the nearest line
breaks on both sides. They always mean the same line of the text, wherever the place is
(`line_and_snippet_agree`).

What joins the two is `getElem?_splitOn_count`: of the parts of a text between separators, the one
at a place is found by counting the separators in front of it. Counting bytes comes to the same,
since a line break is one byte that is in no other character (`count_newline_utf8EncodeChar`).
-/

namespace ThreatModel

namespace Text

variable {cs : List Char}

/-! ### Parts between separators -/

section Parts

variable {α : Type} [DecidableEq α] (sep : α)

theorem length_splitOn (xs : List α) : (xs.splitOn sep).length = xs.count sep + 1 := by
  induction xs with
  | nil => rw [List.splitOn_nil, List.count_nil, List.length_singleton]
  | cons x xs ih =>
    rw [List.splitOn_cons_eq_if_modifyHead, List.count_cons]
    split_ifs with hx
    · rw [List.length_cons, ih]
    · rw [List.length_modifyHead, ih]

theorem head?_splitOn (xs : List α) :
    (xs.splitOn sep).head? = some (xs.takeWhile (· != sep)) := by
  induction xs with
  | nil => rw [List.splitOn_nil, List.head?_cons, List.takeWhile_nil]
  | cons x xs ih =>
    rw [List.splitOn_cons_eq_if_modifyHead]
    by_cases hx : x = sep
    · rw [if_pos (beq_iff_eq.2 hx), List.head?_cons, List.takeWhile_cons_of_neg (by simpa using hx)]
    · rw [if_neg (mt beq_iff_eq.1 hx), List.head?_modifyHead, ih,
        List.takeWhile_cons_of_pos (by simpa using hx), Option.map_some]

/-- **The part at a place** is found by counting the separators in front of the place. It goes from
the last separator in front to the first one behind. -/
theorem getElem?_splitOn_count (a b : List α) :
    ((a ++ b).splitOn sep)[a.count sep]? =
      some ((a.reverse.takeWhile (· != sep)).reverse ++ b.takeWhile (· != sep)) := by
  have hpos {t : List α} (ht : sep ∉ t) : ∀ x ∈ t, (x != sep) = true := fun x hx =>
    bne_iff_ne.2 (ne_of_mem_of_not_mem hx ht)
  by_cases hmem : sep ∈ a
  · -- The parts in front of the last separator are as many as there are separators.
    obtain ⟨t, s, hst, ht⟩ := List.eq_append_cons_of_mem (List.mem_reverse.2 hmem)
    have ha : a = s.reverse ++ sep :: t.reverse := by
      rw [← List.reverse_reverse a, hst]
      simp
    have ht' : sep ∉ t.reverse := by rwa [List.mem_reverse]
    have hcount : a.count sep = (s.reverse.splitOn sep).length := by
      rw [ha, List.count_append, List.count_cons_self, List.count_eq_zero.2 ht', length_splitOn]
    have htake : a.reverse.takeWhile (· != sep) = t := by
      rw [hst, List.takeWhile_append_of_pos (hpos ht), List.takeWhile_cons_of_neg (by simp),
        List.append_nil]
    rw [hcount, htake, ha, List.append_assoc, List.cons_append, List.splitOn_append_cons_self,
      List.getElem?_append_right (Nat.le_refl _), Nat.sub_self, ← List.head?_eq_getElem?,
      head?_splitOn, List.takeWhile_append_of_pos (hpos ht')]
  · have htake : a.reverse.takeWhile (· != sep) = a.reverse :=
      List.takeWhile_eq_self_iff.2 fun x hx => hpos hmem x (List.mem_reverse.1 hx)
    rw [List.count_eq_zero.2 hmem, ← List.head?_eq_getElem?, head?_splitOn, htake,
      List.reverse_reverse, List.takeWhile_append_of_pos (hpos hmem)]

end Parts

/-- The places of an element below a bound, in a list of all its places. -/
theorem length_takeWhile_idxsOf {α : Type} [BEq α] (x : α) (xs : List α) (n : ℕ) :
    ((xs.idxsOf x).takeWhile (· < n)).length = (xs.take n).count x := by
  have hsplit : xs.idxsOf x =
      (xs.take n).idxsOf x ++ (xs.drop n).idxsOf x (0 + (xs.take n).length) := by
    rw [← List.idxsOf_append, List.take_append_drop]
  have hfront : ∀ i ∈ (xs.take n).idxsOf x, decide (i < n) = true := fun i hi => by
    have hlt := List.lt_add_of_mem_idxsOf i hi
    rw [List.length_take] at hlt
    exact decide_eq_true (by omega)
  have hback : ((xs.drop n).idxsOf x (0 + (xs.take n).length)).takeWhile (· < n) = [] := by
    by_cases hn : n ≤ xs.length
    · cases h : (xs.drop n).idxsOf x (0 + (xs.take n).length) with
      | nil => rfl
      | cons i r =>
        have hge := List.ge_of_mem_idxsOf i (h ▸ List.mem_cons_self)
        rw [List.length_take_of_le hn] at hge
        exact List.takeWhile_cons_of_neg (by simpa using hge)
    · rw [List.drop_eq_nil_of_le (by omega), List.idxsOf_nil, List.takeWhile_nil]
  rw [hsplit, List.takeWhile_append_of_pos hfront, hback, List.append_nil, List.length_idxsOf]

/-! ### Bytes -/

/-- A line break is one byte, and a part of no other character. -/
theorem count_newline_utf8EncodeChar (c : Char) :
    (String.utf8EncodeChar c).count 10 = [c].count '\n' := by
  by_cases hc : c = '\n'
  · rw [hc]
    decide
  have hval : c.val.toNat ≠ 10 := fun h => hc (Char.toNat_inj.1 h)
  have hne {n : ℕ} (hn : n < 256) (h10 : n ≠ 10) : UInt8.ofNat n ≠ 10 := fun h =>
    h10 ((uint8_ofNat_inj hn (by decide)).1 h)
  have hnot : '\n' ∉ [c] := by simpa using Ne.symm hc
  rw [List.count_eq_zero.2 hnot, List.count_eq_zero]
  intro hmem
  simp only [String.utf8EncodeChar] at hmem
  split_ifs at hmem
  all_goals
    simp only [List.mem_cons, List.not_mem_nil, or_false] at hmem
    grind

theorem count_newline_utf8 (cs : List Char) :
    (cs.flatMap String.utf8EncodeChar).count 10 = cs.count '\n' := by
  induction cs with
  | nil => rfl
  | cons c cs ih =>
    rw [List.flatMap_cons, List.count_append, count_newline_utf8EncodeChar, ih,
      ← List.count_append, List.singleton_append]

theorem length_flatMap_utf8EncodeChar (cs : List Char) :
    (cs.flatMap String.utf8EncodeChar).length = utf8Length cs := by
  induction cs with
  | nil => rfl
  | cons c cs ih =>
    rw [List.flatMap_cons, List.length_append, String.length_utf8EncodeChar, ih, utf8Length_cons]

namespace Cursor

variable (k : Cursor)

theorem front_append_after : k.front ++ k.after = k.text := rfl

/-- A place is known by its text and its offset. -/
theorem atOffset_text_offset : atOffset k.text k.offset = k := by
  have hsplit : splitBytes k.offset k.text = (k.front, k.after) := by
    rw [← k.front_append_after, k.offset_eq, ← utf8Length_reverse]
    exact splitBytes_utf8Length _ _
  unfold atOffset
  rw [hsplit]
  exact ext_of_before (List.reverse_reverse _) rfl

/-- The place at a position of a string. -/
theorem atOffset_pos {text : String} (p : text.Pos) :
    (atOffset text.toList p.offset.byteIdx).text = text.toList ∧
      (atOffset text.toList p.offset.byteIdx).offset = p.offset.byteIdx := by
  obtain ⟨s, t, htext, hoffset⟩ := String.Pos.Raw.isValid_iff_exists_append.1 p.isValid
  have hbytes : p.offset.byteIdx = utf8Length s.toList := by
    rw [hoffset, String.byteIdx_rawEndPos, utf8Length_toList]
  have hchars : text.toList = s.toList ++ t.toList := by rw [htext, String.toList_append]
  rw [hbytes, hchars, atOffset, splitBytes_utf8Length]
  exact ⟨congrArg (· ++ t.toList) (List.reverse_reverse s.toList), rfl⟩

/-- A place in a string has a position. -/
theorem exists_pos {text : String} (h : k.text = text.toList) :
    ∃ p : text.Pos, k = atOffset text.toList p.offset.byteIdx := by
  have htext : text = String.ofList k.front ++ String.ofList k.after := by
    rw [← String.ofList_append, k.front_append_after, h, String.ofList_toList]
  refine ⟨⟨⟨k.offset⟩, String.Pos.Raw.isValid_iff_exists_append.2 ⟨_, _, htext, ?_⟩⟩, ?_⟩
  · have hsize : (String.ofList k.front).utf8ByteSize = k.offset := by
      rw [← utf8Length_toList, String.toList_ofList, front, utf8Length_reverse, k.offset_eq]
    rw [String.Pos.Raw.ext_iff, String.byteIdx_rawEndPos, hsize]
  · rw [← h, k.atOffset_text_offset]

/-! ### The line of a place -/

/-- The line breaks in front of a place are so many bytes among those in front of it. -/
theorem count_bytes_front :
    ((utf8Bytes (String.ofList k.text)).take k.offset).count 10 = k.front.count '\n' := by
  have hlen : (k.front.flatMap String.utf8EncodeChar).length = k.offset := by
    rw [length_flatMap_utf8EncodeChar, front, utf8Length_reverse, k.offset_eq]
  rw [utf8Bytes_eq_flatMap, String.toList_ofList, ← k.front_append_after, List.flatMap_append,
    List.take_left' hlen, count_newline_utf8]

/-- **The text of a line is the part of that number.** -/
theorem getElem?_line : (k.text.splitOn '\n')[k.line - 1]? = some k.lineText := by
  have h := getElem?_splitOn_count '\n' k.front k.after
  rw [k.front_append_after, front, List.count_reverse, List.reverse_reverse] at h
  exact h

theorem line_le : k.line ≤ (k.text.splitOn '\n').length := by
  have h := (List.getElem?_eq_some_iff.1 k.getElem?_line).1
  have hpos : 1 ≤ k.line := Nat.le_add_left 1 _
  omega

theorem lineText_isInfix_text : k.lineText <:+: k.text := by
  refine ⟨(k.before.dropWhile (· != '\n')).reverse, k.after.dropWhile (· != '\n'), ?_⟩
  have hbefore : (k.before.dropWhile (· != '\n')).reverse ++
      (k.before.takeWhile (· != '\n')).reverse = k.before.reverse := by
    rw [← List.reverse_append, List.takeWhile_append_dropWhile]
  rw [lineText, List.append_assoc, List.append_assoc, List.takeWhile_append_dropWhile,
    ← List.append_assoc, hbefore]
  rfl

theorem newline_notMem_lineText : '\n' ∉ k.lineText := by
  have hnot {cs : List Char} : '\n' ∉ cs.takeWhile (· != '\n') := fun h => by
    simpa using List.mem_takeWhile_imp h
  rw [lineText, List.mem_append, List.mem_reverse, not_or]
  exact ⟨hnot, hnot⟩

end Cursor

end Text

open Text (Cursor Trims)

/-- The snippet of a place is the front of its line, without blanks. -/
theorem toList_snippetAt (maxChars : ℕ) (k : Cursor) :
    (snippetAt maxChars k).toList = (Text.trim k.lineText).take maxChars :=
  String.toList_ofList

/-- **Line numbers and snippets mean the same line.** At every position of a text, the line number
is one more than the number of bytes in front of it that are line breaks, and than the number of
offsets of line breaks below its own. It is the number of one of the lines of the text, and the
snippet is the front of that line without the blanks at its ends, so that it is a part of the text
without a line break. Every finding has the line number and the snippet of some position. -/
theorem line_and_snippet_agree (text : String) :
    let lines := text.toList.splitOn '\n'
    let bytes := utf8Bytes text
    let place (p : text.Pos) := Cursor.atOffset text.toList p.offset.byteIdx
    (∀ (p : text.Pos) (maxChars : ℕ),
      let snippet := (snippetAt maxChars (place p)).toList
      (place p).line = 1 + (bytes.take p.offset.byteIdx).count 10 ∧
      (place p).line = 1 + ((bytes.idxsOf 10).takeWhile (· < p.offset.byteIdx)).length ∧
      1 ≤ (place p).line ∧ (place p).line ≤ lines.length ∧
      (∃ line left, lines[(place p).line - 1]? = some line ∧ Trims line left ∧
        snippet = left.take maxChars) ∧
      snippet <:+: text.toList ∧ '\n' ∉ snippet) ∧
    ∀ ds limits path, ∀ f ∈ scanText ds limits path text, ∃ p : text.Pos,
      f.line = (place p).line ∧ f.snippet = snippetAt limits.snippetChars (place p) := by
  intro lines bytes place
  constructor
  · intro p maxChars snippet
    obtain ⟨htext, hoffset⟩ := Cursor.atOffset_pos p
    have hline : (place p).line = 1 + (bytes.take p.offset.byteIdx).count 10 := by
      have hcount := (place p).count_bytes_front
      rw [htext, hoffset, String.ofList_toList] at hcount
      rw [Cursor.line_eq_count_front, ← hcount, Nat.add_comm]
    have hpiece := (place p).getElem?_line
    have hle := (place p).line_le
    rw [htext] at hpiece hle
    have htrims := Text.trims_trim (place p).lineText
    have hsnippet : snippet <:+: (place p).lineText := by
      rw [show snippet = _ from toList_snippetAt maxChars (place p)]
      exact (List.take_prefix _ _).isInfix.trans htrims.isInfix
    refine ⟨hline, ?_, ?_, hle, ⟨_, _, hpiece, htrims, toList_snippetAt maxChars _⟩, ?_, ?_⟩
    · rw [Text.length_takeWhile_idxsOf, hline]
    · rw [hline]
      exact Nat.le_add_right 1 _
    · exact htext ▸ hsnippet.trans (place p).lineText_isInfix_text
    · exact fun hmem => (place p).newline_notMem_lineText (hsnippet.subset hmem)
  · intro ds limits path f hf
    rw [scanText_eq_take] at hf
    obtain ⟨d, -, hmem⟩ := List.mem_flatMap.1 (List.mem_of_mem_take hf)
    obtain ⟨m, hm, rfl⟩ := List.mem_map.1 hmem
    obtain ⟨p, hp⟩ := m.first.exists_pos (Pattern.of_mem_matchesFrom hm).2
    exact ⟨p, congrArg Cursor.line hp, congrArg (snippetAt limits.snippetChars) hp⟩

/-- An evaluation in the middle of the second line, behind a character of two bytes. -/
theorem line_and_snippet_agree_of_evaluation :
    let text := "é\n   b eval(c)   \nd"
    ∃ f ∈ scanText [.codeEval] {} "a.js" text, f.snippet = "b eval(c)" ∧
      ∃ p : text.Pos, f.line = 1 + ((utf8Bytes text).take p.offset.byteIdx).count 10 ∧
        (text.toList.splitOn '\n')[f.line - 1]? = some "   b eval(c)   ".toList := by
  intro text
  have hscan : (scanText [.codeEval] {} "a.js" text).map (fun f => (f.line, f.snippet)) =
      [(2, "b eval(c)")] := by
    decide +kernel
  have hmem : (2, "b eval(c)") ∈
      (scanText [.codeEval] {} "a.js" text).map fun f => (f.line, f.snippet) := by
    rw [hscan]
    exact List.mem_singleton_self _
  obtain ⟨f, hf, heq⟩ := List.mem_map.1 hmem
  obtain ⟨hline, hsnippet⟩ := Prod.mk.inj heq
  obtain ⟨hplaces, hfindings⟩ := line_and_snippet_agree text
  obtain ⟨p, hp, -⟩ := hfindings _ _ _ f hf
  refine ⟨f, hf, hsnippet, p, hp.trans (hplaces p 0).1, ?_⟩
  rw [hline]
  decide +kernel

end ThreatModel
