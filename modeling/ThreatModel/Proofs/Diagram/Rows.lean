import ThreatModel.Diagram.Flowchart
import ThreatModel.Proofs.Diagram.Label

/-!
# The rows of a flowchart

The text of a flowchart, cut at the ends of lines, gives back its lines
(`splitOn_newline_render`), and a line cut at its quotes gives its label and what stands around it
(`Line.splitOn_quote_text`). Both hold because a label has no quote and no end of a line in it, and
nothing else in a line has (`Line.plain_of_mem_parts`).
-/

namespace ThreatModel.Diagram

/-! ### Parts of a line -/

/-- The label of a line. -/
def Line.label? : Line → Option String
  | node n | innerNode n => some n.label
  | openBoundary _ s | edge _ _ s => some s
  | header | closeBoundary | style _ | members _ _ => none

/-- The label of the line, if it has one, can stand between quotes. -/
def Line.Clean (l : Line) : Prop := ∀ s, l.label? = some s → IsLabel s.toList

/-- The shape of a node: what stands around its quoted label. -/
def shape : ComponentKind → List Char × List Char
  | .database => (['[', '('], [')', ']'])
  | .external => (['(', '['], [']', ')'])
  | .queue => (['[', '['], [']', ']'])
  | .gateway => (['\x7b', '\x7b'], ['\x7d', '\x7d'])
  | _ => (['['], [']'])

/-- The names of some nodes. -/
def ids (is : List Nat) : List Char := [','].intercalate (is.map fun i => (nodeId i).toList)

/-- The parts of a node between its quotes, behind a margin. -/
def Node.parts (margin : String) (n : Node) : List (List Char) :=
  [margin.toList ++ (nodeId n.index).toList ++ (shape n.kind).1, n.label.toList, (shape n.kind).2]

/-- The parts of a line between its quotes. -/
def Line.parts : Line → List (List Char)
  | header => ["flowchart TD".toList]
  | node n => n.parts "    "
  | openBoundary i s =>
    ["    subgraph B".toList ++ Nat.toDigits 10 i ++ " [".toList, s.toList, [']']]
  | innerNode n => n.parts "        "
  | closeBoundary => ["    end".toList]
  | edge i j s => ["    ".toList ++ (nodeId i).toList ++ " -->|".toList, s.toList,
      "| ".toList ++ (nodeId j).toList]
  | style k => ["    classDef ".toList ++ k.name.toList ++ ' ' :: (colours k).toList]
  | members k is => ["    class ".toList ++ ids is ++ ' ' :: k.name.toList]

theorem toList_nodeId (i : Nat) : (nodeId i).toList = 'C' :: Nat.toDigits 10 i := by
  have h : nodeId i = "C" ++ i.repr := rfl
  simp [h, Nat.repr_eq_ofList_toDigits]

theorem toList_brackets (k : ComponentKind) :
    (brackets k).1.toList = (shape k).1 ++ ['"'] ∧ (brackets k).2.toList = '"' :: (shape k).2 := by
  cases k <;> decide

theorem Node.toList_text (margin : String) (n : Node) :
    (margin ++ n.text).toList = ['"'].intercalate (n.parts margin) := by
  simp [text, parts, toList_brackets, List.intercalate_cons_cons]

/-- A line is its parts with quotes between them. -/
theorem Line.toList_text (l : Line) : l.text.toList = ['"'].intercalate l.parts := by
  cases l with
  | header => exact (List.intercalate_singleton ..).symm
  | node n => exact n.toList_text _
  | openBoundary i s =>
    have h : (openBoundary i s).text = "    subgraph B" ++ i.repr ++ " [\"" ++ s ++ "\"]" := rfl
    simp [h, parts, Nat.repr_eq_ofList_toDigits, List.intercalate_cons_cons]
  | innerNode n => exact n.toList_text _
  | closeBoundary => exact (List.intercalate_singleton ..).symm
  | edge i j s =>
    have h : (edge i j s).text = "    " ++ nodeId i ++ " -->|\"" ++ s ++ "\"| " ++ nodeId j := rfl
    simp [h, parts, List.intercalate_cons_cons]
  | style k =>
    have h : (style k).text = "    classDef " ++ k.name ++ " " ++ colours k := rfl
    simp [h, parts]
  | members k is =>
    have h : (members k is).text =
        "    class " ++ ",".intercalate (is.map nodeId) ++ " " ++ k.name := rfl
    simp [h, parts, ids, Function.comp_def]

theorem Line.parts_of_label?_eq_none {l : Line} (h : l.label? = none) :
    l.parts = [l.text.toList] := by
  rw [toList_text]
  cases l with
  | header | closeBoundary | style _ | members _ _ =>
    exact congrArg ([·]) List.intercalate_singleton.symm
  | node _ | openBoundary _ _ | innerNode _ | edge _ _ _ => cases h

theorem Line.parts_of_label?_eq_some {l : Line} {s : String} (h : l.label? = some s) :
    ∃ front back, l.parts = [front, s.toList, back] := by
  cases l <;> cases h <;> exact ⟨_, _, rfl⟩

/-! ### Marks -/

/-- A text without the marks at which a flowchart is cut. -/
def Plain (cs : List Char) : Prop := '\n' ∉ cs ∧ '"' ∉ cs

instance (cs : List Char) : Decidable (Plain cs) := inferInstanceAs (Decidable (_ ∧ _))

@[simp] theorem plain_append {xs ys : List Char} : Plain (xs ++ ys) ↔ Plain xs ∧ Plain ys := by
  simp only [Plain, List.mem_append, not_or]
  tauto

@[simp] theorem plain_nil : Plain [] := by decide

@[simp] theorem plain_cons {c : Char} {cs : List Char} :
    Plain (c :: cs) ↔ (c ≠ '\n' ∧ c ≠ '"') ∧ Plain cs := by
  simp only [Plain, List.mem_cons, not_or, ne_comm]
  tauto

theorem IsLabel.plain {cs : List Char} (h : IsLabel cs) : Plain cs := by
  constructor
  · intro hmem
    exact absurd (h.not_isControl _ hmem) (by decide)
  · intro hmem
    exact h.notMem_reserved _ hmem (by decide)

theorem notMem_digits {c : Char} (hc : c.isDigit = false) (i : Nat) : c ∉ Nat.toDigits 10 i := by
  intro hmem
  rw [Nat.isDigit_of_mem_toDigits (by decide) (by decide) hmem] at hc
  cases hc

theorem notMem_nodeId {c : Char} (hc : c ≠ 'C' ∧ c.isDigit = false) (i : Nat) :
    c ∉ (nodeId i).toList := by
  rw [toList_nodeId, List.mem_cons, not_or]
  exact ⟨hc.1, notMem_digits hc.2 i⟩

theorem notMem_ids {c : Char} (hc : c ≠ ',' ∧ c ≠ 'C' ∧ c.isDigit = false) (is : List Nat) :
    c ∉ ids is := by
  intro hmem
  obtain h | ⟨w, hw, hcw⟩ := Text.mem_intercalate hmem
  · exact hc.1 (List.mem_singleton.1 h)
  · obtain ⟨i, -, rfl⟩ := List.mem_map.1 hw
    exact notMem_nodeId hc.2 i hcw

@[simp] theorem plain_digits (i : Nat) : Plain (Nat.toDigits 10 i) :=
  ⟨notMem_digits (by decide) i, notMem_digits (by decide) i⟩

@[simp] theorem plain_nodeId (i : Nat) : Plain (nodeId i).toList :=
  ⟨notMem_nodeId (by decide) i, notMem_nodeId (by decide) i⟩

@[simp] theorem plain_ids (is : List Nat) : Plain (ids is) :=
  ⟨notMem_ids (by decide) is, notMem_ids (by decide) is⟩

@[simp] theorem plain_shape (k : ComponentKind) : Plain (shape k).1 ∧ Plain (shape k).2 := by
  cases k <;> decide

@[simp] theorem plain_name (k : ComponentKind) : Plain k.name.toList := by cases k <;> decide

@[simp] theorem plain_colours (k : ComponentKind) : Plain (colours k).toList := by
  cases k <;> decide

variable {l : Line}

/-- Nothing but the quotes around the label cuts a line. -/
theorem Line.plain_of_mem_parts (hl : l.Clean) : ∀ p ∈ l.parts, Plain p := by
  have hnode (n : Node) (hn : IsLabel n.label.toList) (margin : String)
      (hmargin : Plain margin.toList) : ∀ p ∈ n.parts margin, Plain p := by
    simp [Node.parts, hmargin, hn.plain]
  cases l with
  | header => simp [parts]
  | node n => exact hnode n (hl _ rfl) _ (by decide)
  | openBoundary i s =>
    have hs : Plain s.toList := (hl s rfl).plain
    simp [parts, hs]
  | innerNode n => exact hnode n (hl _ rfl) _ (by decide)
  | closeBoundary => simp [parts]
  | edge i j s =>
    have hs : Plain s.toList := (hl s rfl).plain
    simp [parts, hs]
  | style k => simp [parts]
  | members k is => simp [parts]

theorem Line.parts_ne_nil (l : Line) : l.parts ≠ [] := by cases l <;> simp [parts, Node.parts]

/-! ### Cutting -/

/-- Cut at its quotes, a line gives its parts. -/
theorem Line.splitOn_quote_text (hl : l.Clean) : l.text.toList.splitOn '"' = l.parts := by
  rw [toList_text]
  exact List.splitOn_intercalate '"' (fun p hp => (plain_of_mem_parts hl p hp).2) l.parts_ne_nil

/-- The label of a line, if it has one, stands between the only quotes of the line. -/
def Line.IsQuoted (l : Line) : Prop :=
  match l.label? with
  | none => l.text.toList.splitOn '"' = [l.text.toList]
  | some s => ∃ front back, l.text.toList.splitOn '"' = [front, s.toList, back] ∧ IsLabel s.toList

theorem Line.Clean.isQuoted (hl : l.Clean) : l.IsQuoted := by
  have hcut := splitOn_quote_text hl
  unfold IsQuoted
  cases h : l.label? with
  | none => exact hcut.trans (parts_of_label?_eq_none h)
  | some s =>
    obtain ⟨front, back, hparts⟩ := parts_of_label?_eq_some h
    exact ⟨front, back, hcut.trans hparts, hl s h⟩

theorem Line.newline_notMem_text (hl : l.Clean) : '\n' ∉ l.text.toList := by
  rw [toList_text]
  intro hmem
  obtain h | ⟨p, hp, h⟩ := Text.mem_intercalate hmem
  · exact absurd h (by decide)
  · exact (plain_of_mem_parts hl p hp).1 h

/-- Rows, each with a line break behind it, are found again between the line breaks. -/
theorem splitOn_flatMap_newline {rows : List (List Char)} (h : ∀ r ∈ rows, '\n' ∉ r) :
    (rows.flatMap (· ++ ['\n'])).splitOn '\n' = rows ++ [[]] := by
  induction rows with
  | nil => rfl
  | cons r rows ih =>
    obtain ⟨hr, hrows⟩ := List.forall_mem_cons.1 h
    have hcut := List.splitOn_append_cons_self_of_not_mem hr (rows.flatMap (· ++ ['\n']))
    simpa [ih hrows] using hcut

variable {a : Analysis}

theorem toList_render (a : Analysis) :
    (render a).toList = ((lines a).map (·.text.toList)).flatMap (· ++ ['\n']) := by
  simp [render, String.toList_join, List.flatMap_map]

/-- Cut at the ends of lines, a flowchart gives its lines. -/
theorem splitOn_newline_render (h : ∀ l ∈ lines a, l.Clean) :
    (render a).toList.splitOn '\n' = (lines a).map (·.text.toList) ++ [[]] := by
  rw [toList_render, splitOn_flatMap_newline]
  simpa using fun l hl => Line.newline_notMem_text (h l hl)

end ThreatModel.Diagram
