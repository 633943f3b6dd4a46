import ThreatModel.Proofs.Diagram.WellFormed
import ThreatModel.Proofs.Number.Digits

/-!
# A flowchart determines its graph

Two analyses have the same flowchart exactly if they have the same graph (`render_eq_iff`). A line
can be read back from its text (`Line.seen_eq_of_text_eq`), but for the kind of a node, of which
only the shape is in its line. The kinds are found again in the lines that list the nodes of each
kind (`Graph.kind_eq_of_members_eq`).
-/

namespace ThreatModel

theorem ComponentKind.name_inj {k k' : ComponentKind} (h : k.name = k'.name) : k = k' := by
  cases k <;> cases k' <;> simp_all [name]

namespace Diagram

/-! ### Numbers -/

theorem toDigits_inj {i j : Nat} : Nat.toDigits 10 i = Nat.toDigits 10 j ↔ i = j := by
  rw [← String.ofList_inj, ← Nat.repr_eq_ofList_toDigits, ← Nat.repr_eq_ofList_toDigits,
    Nat.repr_inj]

theorem takeWhile_digits_append {i : Nat} {r : List Char} (hr : ∀ c ∈ r.head?, c.isDigit = false) :
    (Nat.toDigits 10 i ++ r).takeWhile Char.isDigit = Nat.toDigits 10 i :=
  takeWhile_isDigit_append (fun _ => isDigit_of_mem_digitText) hr

/-- A number can be read back if no digit follows it. -/
theorem toDigits_append_inj {i j : Nat} {r s : List Char} (hr : ∀ c ∈ r.head?, c.isDigit = false)
    (hs : ∀ c ∈ s.head?, c.isDigit = false) (h : Nat.toDigits 10 i ++ r = Nat.toDigits 10 j ++ s) :
    i = j ∧ r = s := by
  have hdigits := congrArg (List.takeWhile Char.isDigit) h
  rw [takeWhile_digits_append hr, takeWhile_digits_append hs] at hdigits
  exact ⟨toDigits_inj.1 hdigits, List.append_cancel_left (hdigits ▸ h)⟩

theorem nodeId_inj {i j : Nat} (h : (nodeId i).toList = (nodeId j).toList) : i = j := by
  rw [toList_nodeId, toList_nodeId, List.cons_inj_right] at h
  exact toDigits_inj.1 h

theorem ids_ne_nil (i : Nat) (is : List Nat) : ids (i :: is) ≠ [] :=
  Text.intercalate_ne_nil (by simp [toList_nodeId]) _

theorem splitOn_comma_ids {is : List Nat} (h : is ≠ []) :
    (ids is).splitOn ',' = is.map fun i => (nodeId i).toList := by
  refine List.splitOn_intercalate ',' ?_ (by simpa using h)
  intro w hw
  obtain ⟨i, -, rfl⟩ := List.mem_map.1 hw
  exact notMem_nodeId (by decide) i

theorem ids_inj {is js : List Nat} (h : ids is = ids js) : is = js := by
  cases is with
  | nil =>
    cases js with
    | nil => rfl
    | cons j js => exact absurd h.symm (ids_ne_nil j js)
  | cons i is =>
    cases js with
    | nil => exact absurd h (ids_ne_nil i is)
    | cons j js =>
      have hcut := congrArg (List.splitOn ',') h
      rw [splitOn_comma_ids (List.cons_ne_nil i is),
        splitOn_comma_ids (List.cons_ne_nil j js)] at hcut
      exact List.map_injective_iff.2 (fun _ _ => nodeId_inj) hcut

/-! ### Lines -/

/-- A kind that is drawn in the same shape. -/
def drawnAs : ComponentKind → ComponentKind
  | .database => .database
  | .external => .external
  | .queue => .queue
  | .gateway => .gateway
  | _ => .service

theorem drawnAs_eq_of_shape_eq {k k' : ComponentKind} (h : (shape k).1 = (shape k').1) :
    drawnAs k = drawnAs k' := by
  cases k <;> cases k' <;> first | rfl | simp [shape] at h

theorem not_isDigit_of_mem_head?_shape (k : ComponentKind) :
    ∀ c ∈ (shape k).1.head?, c.isDigit = false := by
  cases k <;> (rintro c ⟨⟩; rfl)

theorem shape_ne_bar (k : ComponentKind) (cs : List Char) : (shape k).2 ≠ '|' :: cs := by
  cases k <;> simp [shape]

theorem space_notMem_name (k : ComponentKind) : ' ' ∉ k.name.toList := by cases k <;> decide

theorem space_notMem_colours (k : ComponentKind) : ' ' ∉ (colours k).toList := by
  cases k <;> decide

/-- What can be seen of a node in its line. -/
def Node.seen (n : Node) : Node := { n with kind := drawnAs n.kind }

/-- What can be seen of a line. -/
def Line.seen : Line → Line
  | node n => node n.seen
  | innerNode n => innerNode n.seen
  | l => l

theorem Node.seen_eq_of_parts_eq {n m : Node} {margin : String}
    (h : n.parts margin = m.parts margin) : n.seen = m.seen := by
  obtain ⟨i, s, k⟩ := n
  obtain ⟨j, t, k'⟩ := m
  simp only [parts, toList_nodeId, List.cons.injEq, List.append_assoc, List.cons_append,
    List.append_cancel_left_eq, String.toList_inj, true_and, and_true] at h
  obtain ⟨hfront, rfl, -⟩ := h
  obtain ⟨rfl, hshape⟩ := toDigits_append_inj (not_isDigit_of_mem_head?_shape k)
    (not_isDigit_of_mem_head?_shape k') hfront
  simp [seen, drawnAs_eq_of_shape_eq hshape]

theorem Line.seen_eq_of_parts_eq {l l' : Line} (h : l.parts = l'.parts) : l.seen = l'.seen := by
  -- Lines of two kinds differ in how they begin, but for nodes and edges, which differ behind the
  -- label.
  cases l with
  | header => cases l' <;> first | rfl | simp [parts, Node.parts] at h
  | node n =>
    cases l' with
    | node m => exact congrArg node (Node.seen_eq_of_parts_eq h)
    | edge i j s => simp [parts, Node.parts, toList_nodeId, shape_ne_bar] at h
    | _ => simp [parts, Node.parts, toList_nodeId] at h
  | openBoundary i s =>
    cases l' with
    | openBoundary j t =>
      simp only [parts, List.cons.injEq, List.append_assoc, List.append_cancel_left_eq,
        List.append_cancel_right_eq, String.toList_inj, toDigits_inj, and_true] at h
      rw [h.1, h.2]
    | _ => simp [parts, Node.parts, toList_nodeId] at h
  | innerNode n =>
    cases l' with
    | innerNode m => exact congrArg innerNode (Node.seen_eq_of_parts_eq h)
    | _ => simp [parts, Node.parts, toList_nodeId] at h
  | closeBoundary => cases l' <;> first | rfl | simp [parts, Node.parts] at h
  | edge i j s =>
    cases l' with
    | node n => simp [parts, Node.parts, toList_nodeId, (shape_ne_bar _ _).symm] at h
    | edge i' j' s' =>
      simp only [parts, toList_nodeId, List.cons.injEq, List.append_assoc, List.cons_append,
        List.append_cancel_left_eq, List.append_cancel_right_eq, String.toList_inj, toDigits_inj,
        true_and, and_true] at h
      rw [h.1, h.2.1, h.2.2]
    | _ => simp [parts, Node.parts, toList_nodeId] at h
  | style k =>
    cases l' with
    | style k' =>
      simp only [parts, List.cons.injEq, List.append_assoc, List.append_cancel_left_eq,
        and_true] at h
      obtain ⟨hname, -⟩ := (List.append_cons_inj_of_notMem (space_notMem_name k)
        (space_notMem_colours k)).1 h
      rw [ComponentKind.name_inj (String.toList_inj.1 hname)]
    | _ => simp [parts, Node.parts, toList_nodeId] at h
  | members k is =>
    cases l' with
    | members k' is' =>
      simp only [parts, List.cons.injEq, List.append_assoc, List.append_cancel_left_eq,
        and_true] at h
      obtain ⟨hids, -, hname⟩ := (List.append_cons_inj_of_notMem (notMem_ids (by decide) is)
        (space_notMem_name k)).1 h
      rw [ComponentKind.name_inj (String.toList_inj.1 hname), ids_inj hids]
    | _ => simp [parts, Node.parts, toList_nodeId] at h

/-- **A line can be read back from its text**, up to the kind of a node. -/
theorem Line.seen_eq_of_text_eq {l l' : Line} (hl : l.Clean) (hl' : l'.Clean)
    (h : l.text.toList = l'.text.toList) : l.seen = l'.seen := by
  refine seen_eq_of_parts_eq ?_
  rw [← splitOn_quote_text hl, ← splitOn_quote_text hl', h]

theorem map_seen_eq_of_map_text_eq {ls ls' : List Line} (hls : ∀ l ∈ ls, l.Clean)
    (hls' : ∀ l ∈ ls', l.Clean) (h : ls.map (·.text.toList) = ls'.map (·.text.toList)) :
    ls.map Line.seen = ls'.map Line.seen := by
  induction ls generalizing ls' with
  | nil => rw [List.map_eq_nil_iff.1 h.symm]
  | cons l ls ih =>
    cases ls' with
    | nil => cases h
    | cons l' ls' =>
      obtain ⟨hl, hls⟩ := List.forall_mem_cons.1 hls
      obtain ⟨hl', hls'⟩ := List.forall_mem_cons.1 hls'
      obtain ⟨htext, hrest⟩ := List.cons.inj h
      rw [List.map_cons, List.map_cons, Line.seen_eq_of_text_eq hl hl' htext, ih hls hls' hrest]

/-! ### The lines of a graph -/

/-- What is found in lines can be seen of them. -/
theorem filterMap_eq_of_map_seen_eq {α : Type} {f : Line → Option α} (hf : ∀ l, f l.seen = f l)
    {ls ls' : List Line} (h : ls.map Line.seen = ls'.map Line.seen) :
    ls.filterMap f = ls'.filterMap f := by
  have hseen (ls : List Line) : (ls.map Line.seen).filterMap f = ls.filterMap f := by
    rw [List.filterMap_map]
    exact List.filterMap_congr fun l _ => hf l
  rw [← hseen ls, h, hseen ls']

theorem declarations?_map_seen (ls : List Line) (boundary : Option Nat) :
    declarations? boundary (ls.map Line.seen) =
      (declarations? boundary ls).map (·.map fun d => (d.1, d.2.seen)) := by
  induction ls generalizing boundary with
  | nil => cases boundary <;> rfl
  | cons l ls ih =>
    cases boundary <;> cases l <;> simp [Line.seen, declarations?, ih, Function.comp_def]

namespace Graph

variable {g h : Graph}

/-- A component is seen where it is declared, with its label and boundary. -/
theorem exists_component_of_seen
    (hseen : ∀ x ∈ g.nodes, ∃ y ∈ h.nodes, (y.1, y.2.seen) = (x.1, x.2.seen)) {i : Nat} {c : Shown}
    (hc : g.components[i]? = some c) :
    ∃ d, h.components[i]? = some d ∧ d.label = c.label ∧ d.boundary = c.boundary := by
  have hmem : (c.boundary, ⟨i, c.label, c.kind⟩) ∈ g.nodes := mem_nodes.2 hc
  obtain ⟨⟨boundary, n⟩, hn, heq⟩ := hseen _ hmem
  obtain ⟨hboundary, hnode⟩ := Prod.mk.inj heq
  obtain ⟨hindex, hlabel, -⟩ := Node.mk.inj hnode
  have hd := mem_nodes.1 hn
  rw [hindex] at hd
  exact ⟨_, hd, hlabel, hboundary⟩

/-- The kinds of the components can be read off the lines that list the nodes of each kind. -/
theorem kind_eq_of_members_eq
    (hmembers : g.lines.filterMap Line.members? = h.lines.filterMap Line.members?) {i : Nat}
    {c d : Shown} (hc : g.components[i]? = some c) (hd : h.components[i]? = some d) :
    d.kind = c.kind := by
  rw [members_lines, members_lines] at hmembers
  have hkind : c.kind ∈ g.kinds := mem_kinds.2 ⟨c, List.mem_of_getElem? hc, rfl⟩
  obtain ⟨k, -, heq⟩ := List.mem_map.1 (hmembers ▸ List.mem_map_of_mem hkind)
  obtain ⟨rfl, hindices⟩ := Prod.mk.inj heq
  have hi : i ∈ h.indicesOf c.kind := hindices ▸ mem_indicesOf.2 ⟨c, hc, rfl⟩
  obtain ⟨d', hd', hkind'⟩ := mem_indicesOf.1 hi
  rw [← hkind', Option.some.inj (hd.symm.trans hd')]

theorem component_of_lines_eq (hg : g.Bounded) (hh : h.Bounded)
    (heq : g.lines.map Line.seen = h.lines.map Line.seen) {i : Nat} {c : Shown}
    (hc : g.components[i]? = some c) : h.components[i]? = some c := by
  obtain ⟨ds, hds, hperm⟩ := exists_declarations?_lines hg
  obtain ⟨es, hes, hperm'⟩ := exists_declarations?_lines hh
  have hdeclared : ds.map (fun x => (x.1, x.2.seen)) = es.map fun x => (x.1, x.2.seen) := by
    have h := congrArg (declarations? none) heq
    rw [declarations?_map_seen, declarations?_map_seen, hds, hes] at h
    exact Option.some.inj h
  have hseen : ∀ x ∈ g.nodes, ∃ y ∈ h.nodes, (y.1, y.2.seen) = (x.1, x.2.seen) := by
    intro x hx
    obtain ⟨y, hy, hxy⟩ := List.mem_map.1 (hdeclared ▸ List.mem_map_of_mem (hperm.mem_iff.2 hx))
    exact ⟨y, hperm'.mem_iff.1 hy, hxy⟩
  obtain ⟨d, hd, hlabel, hboundary⟩ := exists_component_of_seen hseen hc
  have hmembers := filterMap_eq_of_map_seen_eq (f := Line.members?) (by rintro ⟨⟩ <;> rfl) heq
  have hcd : d = c := Shown.ext (kind_eq_of_members_eq hmembers hc hd) hlabel hboundary
  rw [hd, hcd]

theorem eq_of_lines_eq (hg : g.Bounded) (hh : h.Bounded)
    (heq : g.lines.map Line.seen = h.lines.map Line.seen) : g = h := by
  have hcomponents : g.components = h.components := by
    refine List.ext_getElem? fun i => Option.ext fun c => ?_
    exact ⟨component_of_lines_eq hg hh heq, component_of_lines_eq hh hg heq.symm⟩
  have hboundaries : g.boundaries = h.boundaries := by
    have hopeners := filterMap_eq_of_map_seen_eq (f := Line.opener?) (by rintro ⟨⟩ <;> rfl) heq
    rw [openers_lines, openers_lines] at hopeners
    have hlabels := congrArg (List.map Prod.snd) hopeners
    simpa [Function.comp_def] using hlabels
  have hedges : g.edges = h.edges := by
    have hedges := filterMap_eq_of_map_seen_eq (f := Line.edge?) (by rintro ⟨⟩ <;> rfl) heq
    rwa [edges_lines, edges_lines] at hedges
  exact Graph.ext hcomponents hboundaries hedges

end Graph

/-- **A flowchart determines its graph** and shows nothing else of an analysis. -/
theorem render_eq_iff (a b : Analysis) : render a = render b ↔ graph a = graph b := by
  constructor
  · intro h
    have hclean (a : Analysis) : ∀ l ∈ lines a, l.Clean := fun _ hl => clean_of_mem_lines a hl
    have hrows := congrArg (fun s => s.toList.splitOn '\n') h
    simp only [splitOn_newline_render (hclean a), splitOn_newline_render (hclean b)] at hrows
    have hseen := map_seen_eq_of_map_text_eq (hclean a) (hclean b) (List.append_cancel_right hrows)
    rw [lines_eq, lines_eq] at hseen
    exact Graph.eq_of_lines_eq (bounded_graph a) (bounded_graph b) hseen
  · intro h
    rw [render, render, lines_eq, lines_eq, h]

end Diagram

end ThreatModel
