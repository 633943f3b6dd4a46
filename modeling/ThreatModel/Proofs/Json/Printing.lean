import ThreatModel.Json.Printer
import ThreatModel.Proofs.Json.ArrayText

/-!
# Printed values are read back

`readChars?_pretty` : the text that `pretty` makes of a value is read as that value, for every value
that is `Printable`: no object in it has a key twice, it is not nested too deeply, and its numbers
read back from their own texts (`ReadsBack`).

Strings need no condition: each character is spelled by one glyph, whatever it is
(`exists_glyph_escaped`). A printed array or object is brackets around lines (`bodyText_block`), so
it is a text of the grammar, and the grammar says what is read.
-/

namespace ThreatModel.Json

/-! ### Strings -/

theorem hexValue?_hexDigit {n : ℕ} (h : n < 16) :
    Text.hexValue? (Text.hexDigit n) = some n := by
  have hall : ∀ n < 16, Text.hexValue? (Text.hexDigit n) = some n := by decide
  exact hall n h

/-- A unit below the surrogates is a character. -/
theorem text?_unit {u : ℕ} (h : u < 0xD800) (l : Literal) :
    Literal.text? (.unit u :: l) = (Literal.text? l).map (Char.ofNat u :: ·) := by
  have hhigh : (decide (0xD800 ≤ u) && decide (u < 0xDC00)) = false := by simp; omega
  have hlow : (decide (0xDC00 ≤ u) && decide (u < 0xE000)) = false := by simp; omega
  conv_lhs => rw [Literal.text?.eq_def]
  simp only [hhigh, hlow, Bool.false_eq_true, if_false]

/-- **A character is spelled by its escaped text.** -/
theorem exists_glyph_escaped (c : Char) :
    ∃ g : Glyph, (∀ {l w}, LiteralText l w → LiteralText (g :: l) (escaped c ++ w)) ∧
      ∀ l, Literal.text? (g :: l) = (Literal.text? l).map (c :: ·) := by
  unfold escaped
  split
  case h_8 _ hq hb _ _ _ _ _ =>
    split
    next hc =>
      -- Control characters stand below the surrogates.
      refine ⟨.unit c.toNat, fun h => ?_, fun l => ?_⟩
      · have hunit := LiteralText.unit (hexValue?_hexDigit (n := 0) (by decide))
          (hexValue?_hexDigit (n := 0) (by decide))
          (hexValue?_hexDigit (n := c.toNat / 16) (by omega))
          (hexValue?_hexDigit (n := c.toNat % 16) (by omega)) h
        have hvalue : ((0 * 16 + 0) * 256 + c.toNat / 16 * 16 + c.toNat % 16) = c.toNat := by omega
        rw [hvalue] at hunit
        exact hunit
      · rw [text?_unit (by omega), Char.ofNat_toNat]
    next hc => exact ⟨.char c, .char hq hb (by omega), fun _ => rfl⟩
  all_goals exact ⟨.char _, .escape rfl, fun _ => rfl⟩

theorem exists_literal (cs : List Char) :
    ∃ l, LiteralText l (cs.flatMap escaped ++ ['"']) ∧ Literal.text? l = some cs := by
  induction cs with
  | nil => exact ⟨[], .close, rfl⟩
  | cons c cs ih =>
    obtain ⟨l, hl, htext⟩ := ih
    obtain ⟨g, hg, hgtext⟩ := exists_glyph_escaped c
    refine ⟨g :: l, ?_, by rw [hgtext, htext]; rfl⟩
    rw [List.flatMap_cons, List.append_assoc]
    exact hg hl

/-- A quoted string is a literal with the string as its text. -/
theorem exists_quoted (s : String) :
    ∃ l w, quoted s = '"' :: w ∧ LiteralText l w ∧ Literal.string? l = some s := by
  obtain ⟨l, hl, htext⟩ := exists_literal s.toList
  exact ⟨l, _, rfl, hl, by rw [Literal.string?, htext, Option.map_some, String.ofList_toList]⟩

/-! ### Members of objects -/

theorem setMember_of_notMem {ms : List (String × Json)} {key : String}
    (h : key ∉ ms.map Prod.fst) (x : Json) : setMember key x ms = ms ++ [(key, x)] := by
  induction ms with
  | nil => rfl
  | cons m ms ih =>
    rw [List.map_cons, List.mem_cons, not_or] at h
    rw [setMember, if_neg (by simpa using Ne.symm h.1), ih h.2, List.cons_append]

/-- Members of different names are kept as they are. -/
theorem lastWins_of_nodup {ms : List (String × Json)} (h : (ms.map Prod.fst).Nodup) :
    lastWins ms = ms := by
  -- The members taken so far and those that follow have different names.
  suffices ∀ acc : List (String × Json), ((acc ++ ms).map Prod.fst).Nodup →
      ms.foldl (fun acc m => setMember m.1 m.2 acc) acc = acc ++ ms from this [] h
  clear h
  induction ms with
  | nil => simp
  | cons m ms ih =>
    intro acc h
    have hm : m.1 ∉ acc.map Prod.fst := by
      intro hmem
      rw [List.map_append, List.map_cons, List.nodup_append] at h
      exact h.2.2 _ hmem _ List.mem_cons_self rfl
    rw [List.foldl_cons, setMember_of_notMem hm, ih _ (by simpa using h)]
    simp

/-! ### Lines in brackets -/

theorem blanks_newline (level : ℕ) : Blanks (newline level) := by
  intro c hc
  rw [newline, List.mem_cons, List.mem_replicate] at hc
  rcases hc with rfl | ⟨-, rfl⟩ <;> rfl

section

variable {α : Type} {P : α → List Char → Prop} {xs : List α} {ws : List (List Char)}

theorem itemsText_between {a b : List Char} (ha : Blanks a) (hb : Blanks b)
    (h : List.Forall₂ P xs ws) (hne : xs ≠ []) :
    ItemsText P xs (a ++ (between (',' :: a) ws ++ b)) := by
  induction h with
  | nil => exact absurd rfl hne
  | @cons x w xs ws hx h ih =>
    cases h with
    | nil => exact .one ha hx hb
    | cons hy h =>
      have hrest := ItemsText.cons ha hx .nil (ih (List.cons_ne_nil _ _))
      simpa [between] using hrest

/-- Lines in brackets are the items that stand on them. -/
theorem bodyText_block (opening closing : Char) (level : ℕ) (h : List.Forall₂ P xs ws) :
    ∃ u, block opening closing level ws = opening :: (u ++ [closing]) ∧ BodyText P xs u := by
  cases h with
  | nil => exact ⟨[], rfl, .empty .nil⟩
  | cons hx h =>
    have hitems := itemsText_between (blanks_newline (level + 1)) (blanks_newline level)
      (.cons hx h) (List.cons_ne_nil _ _)
    exact ⟨_, by simp [block], .items hitems⟩

end

theorem prettyItems_eq (level : ℕ) (xs : List Json) :
    prettyItems level xs = xs.map (prettyAt (level + 1)) := by
  induction xs with
  | nil => rfl
  | cons x xs ih => rw [prettyItems, ih, List.map_cons]

theorem prettyMembers_eq (level : ℕ) (ms : List (String × Json)) :
    prettyMembers level ms =
      ms.map fun m => quoted m.1 ++ ':' :: ' ' :: prettyAt (level + 1) m.2 := by
  induction ms with
  | nil => rfl
  | cons m ms ih => rw [prettyMembers, ih, List.map_cons]

/-! ### Values -/

/-- A number is read back from its text. -/
def ReadsBack (k : Number) : Prop := ∃ n, NumeralText n k.text ∧ n.value? = some k

/-- A value that is read back from its text: its keys are different, its arrays and objects are
nested at most so many levels deep, and its numbers read back. -/
inductive Printable : ℕ → Json → Prop
  | null {depth : ℕ} : Printable depth .null
  | bool {depth : ℕ} (b : Bool) : Printable depth (.bool b)
  | number {depth : ℕ} {k : Number} (h : ReadsBack k) : Printable depth (.number k)
  | string {depth : ℕ} (s : String) : Printable depth (.string s)
  | array {depth : ℕ} {xs : List Json} (h : ∀ x ∈ xs, Printable depth x) :
      Printable (depth + 1) (.array xs)
  | object {depth : ℕ} {ms : List (String × Json)} (hkeys : (ms.map Prod.fst).Nodup)
      (h : ∀ m ∈ ms, Printable depth m.2) : Printable (depth + 1) (.object ms)

theorem ScalarText.valueText {t : Tree} {w : List Char} (h : ScalarText t w) (depth : ℕ) :
    ValueText depth t w := by
  cases depth with
  | zero => exact h
  | succ depth => exact .inl h

theorem exists_forall₂ {α β : Type} {R : α → β → Prop} {xs : List α}
    (h : ∀ x ∈ xs, ∃ y, R x y) : ∃ ys, List.Forall₂ R xs ys := by
  induction xs with
  | nil => exact ⟨[], .nil⟩
  | cons x xs ih =>
    obtain ⟨y, hy⟩ := h x List.mem_cons_self
    obtain ⟨ys, hys⟩ := ih fun x hx => h x (List.mem_cons_of_mem _ hx)
    exact ⟨y :: ys, .cons hy hys⟩

/-- A printed member is spelled by a name and a tree. -/
theorem exists_member {P : Tree → List Char → Prop} {m : String × Json} {w : List Char}
    (h : ∃ t, P t w ∧ t.value? = some m.2) :
    ∃ p : Literal × Tree, MemberText P p (quoted m.1 ++ ':' :: ' ' :: w) ∧
      Literal.string? p.1 = some m.1 ∧ p.2.value? = some m.2 := by
  obtain ⟨t, ht, hvalue⟩ := h
  obtain ⟨l, k, hk, hl, hname⟩ := exists_quoted m.1
  have hblank : Blanks [' '] := by simp [Blanks, isBlank]
  refine ⟨(l, t), ?_, hname, hvalue⟩
  rw [hk]
  exact .intro hl .nil hblank ht

theorem members?_of_forall₂ {ps : List (Literal × Tree)} {ms : List (String × Json)}
    (h : List.Forall₂ (fun p m => Literal.string? p.1 = some m.1 ∧ p.2.value? = some m.2) ps ms) :
    Tree.members? ps = some ms := by
  induction h with
  | nil => rfl
  | cons hm _ ih =>
    rw [Tree.members?, hm.1, hm.2, ih]
    rfl

/-- **A printed value is spelled by a tree with that value.** -/
theorem exists_tree_of_printable {depth : ℕ} {x : Json} (h : Printable depth x) (level : ℕ) :
    ∃ t, ValueText depth t (prettyAt level x) ∧ t.value? = some x := by
  induction h generalizing level with
  | null => exact ⟨.null, ScalarText.nullWord.valueText _, rfl⟩
  | bool b =>
    cases b with
    | true => exact ⟨.bool true, ScalarText.trueWord.valueText _, rfl⟩
    | false => exact ⟨.bool false, ScalarText.falseWord.valueText _, rfl⟩
  | number h =>
    obtain ⟨n, hn, hvalue⟩ := h
    exact ⟨.number n, (ScalarText.number hn).valueText _, by rw [Tree.value?, hvalue]; rfl⟩
  | string s =>
    obtain ⟨l, w, hw, hl, htext⟩ := exists_quoted s
    refine ⟨.string l, ?_, by rw [Tree.value?, htext]; rfl⟩
    rw [prettyAt, hw]
    exact (ScalarText.string hl).valueText _
  | @array depth xs _ ih =>
    obtain ⟨ts, hts⟩ := exists_forall₂ fun x hx => ih x hx (level + 1)
    obtain ⟨u, hu, hbody⟩ := bodyText_block (P := ValueText depth) '[' ']' level
      (List.forall₂_map_right_iff.2 (hts.flip.imp fun _ _ h => h.1))
    refine ⟨.array ts, .inr (.inl ⟨ts, u, rfl, ?_, hbody⟩), ?_⟩
    · rw [prettyAt, prettyItems_eq, hu]
    · rw [Tree.value?, Tree.values?_eq_some_iff.2 (hts.flip.imp fun _ _ h => h.2), Option.map_some]
  | @object depth ms hkeys _ ih =>
    obtain ⟨ps, hps⟩ := exists_forall₂ fun m hm => exists_member (ih m hm (level + 1))
    obtain ⟨u, hu, hbody⟩ := bodyText_block (P := MemberText (ValueText depth)) '\x7b' '\x7d' level
      (List.forall₂_map_right_iff.2 (hps.flip.imp fun _ _ h => h.1))
    refine ⟨.object ps, .inr (.inr ⟨ps, u, rfl, ?_, hbody⟩), ?_⟩
    · rw [prettyAt, prettyMembers_eq, hu]
    · rw [Tree.value?, members?_of_forall₂ (hps.flip.imp fun _ _ h => h.2), Option.map_some,
        lastWins_of_nodup hkeys]

/-- **A printed value is read back.** -/
theorem readChars?_pretty {x : Json} (h : Printable maxDepth x) :
    readChars? (pretty x) = some x := by
  obtain ⟨t, ht, hvalue⟩ := exists_tree_of_printable h 0
  rw [readChars?, pretty, whole_eq_some_iff.2 ⟨[], _, [], by simp, .nil, ht, .nil⟩,
    Option.bind_some, hvalue]

end ThreatModel.Json
