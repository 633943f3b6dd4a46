import ThreatModel.Proofs.Diagram.Lines
import ThreatModel.Proofs.Diagram.Placement
import ThreatModel.Proofs.Diagram.Rows

/-!
# Every flowchart is well formed

Whatever names its components, boundaries and flows have, an analysis is drawn as a chart
(`IsChart`): blocks are closed, every component is declared once and stands where it belongs, edges
join declared nodes, and every node has one style. No name gets out of its quotes, so the rows of
the text are the lines of the chart (`render_isChart`).
-/

namespace ThreatModel.Diagram

/-! ### Charts -/

/-- A node in the block of a boundary, or outside of all blocks, draws a component: it stands where
the component belongs. -/
def Draws (a : Analysis) (boundary : Option Nat) (n : Node) : Prop :=
  ∃ c, a.components[n.index]? = some c ∧ n.label = label c.name ∧ n.kind = c.kind ∧
    Encloses a boundary c.name

/-- An edge between two components stands for a flow. -/
def Joins (a : Analysis) (i j : Nat) (s : String) (f : DataFlow) : Prop :=
  (∃ c, a.components[i]? = some c ∧ c.name = f.source) ∧
    (∃ c, a.components[j]? = some c ∧ c.name = f.target) ∧ s = label f.label

/-- Lines that draw an analysis. -/
structure IsChart (a : Analysis) (ls : List Line) : Prop where
  /-- The header is the first line and no other. -/
  header : ∃ rest, ls = .header :: rest ∧ .header ∉ rest
  /-- There is one block for every boundary. -/
  openers : ls.filterMap Line.opener? = a.trustBoundaries.zipIdx.map fun (t, i) => (i, label t.name)
  /-- Blocks are closed and do not nest. Every component is declared once, inside the block of a
  boundary that lists it or outside of all blocks. -/
  declared : ∃ ds, declarations? none ls = some ds ∧
    (ds.map (·.2.index)).Perm (List.range a.components.length) ∧ ∀ d ∈ ds, Draws a d.1 d.2
  /-- There is one edge for every valid flow. -/
  length_edges : (ls.filterMap Line.edge?).length = a.validFlows.length
  /-- Edges join components. -/
  joined : ∀ i j s, (i, j, s) ∈ ls.filterMap Line.edge? → ∃ f ∈ a.validFlows, Joins a i j s f
  /-- A component is listed once, among the nodes of its kind. -/
  members : ∀ i c, a.components[i]? = some c →
    ∃ is, (ls.filterMap Line.members?).filter (fun m => m.2.contains i) = [(c.kind, is)] ∧
      is.count i = 1
  /-- The kind of a component has one style. -/
  styles : ∀ c ∈ a.components, (ls.filterMap Line.style?).count c.kind = 1

/-! ### Labels -/

variable (a : Analysis)

theorem exists_label_eq_of_mem_nodesIn {boundary : Option Nat} {x : Option Nat × Node}
    (hx : x ∈ (graph a).nodesIn boundary) : ∃ t, x.2.label = label t := by
  rw [Graph.nodesIn, nodes_graph] at hx
  obtain ⟨⟨c, i⟩, -, rfl⟩ := List.mem_map.1 (List.mem_of_mem_filter hx)
  exact ⟨c.name, rfl⟩

theorem exists_label_eq_of_mem_lines {l : Line} (hl : l ∈ lines a) {s : String}
    (hs : l.label? = some s) : ∃ t, s = label t := by
  rw [lines_eq] at hl
  simp only [Graph.lines, Graph.block, List.mem_append, List.mem_cons, List.mem_map,
    List.mem_flatMap, List.not_mem_nil, or_false] at hl
  -- of the eight kinds of lines, four have a label
  rcases hl with ((((rfl | ⟨x, hx, rfl⟩) | ⟨⟨t, i⟩, ht, (rfl | ⟨x, hx, rfl⟩) | rfl⟩) |
    ⟨⟨i, j, t⟩, he, rfl⟩) | ⟨k, -, rfl⟩) | ⟨k, -, rfl⟩ <;> cases hs
  · exact exists_label_eq_of_mem_nodesIn a hx
  · obtain ⟨b, -, rfl⟩ := List.mem_map.1 (List.fst_mem_of_mem_zipIdx ht)
    exact ⟨b.name, rfl⟩
  · exact exists_label_eq_of_mem_nodesIn a hx
  · obtain ⟨f, -, hends⟩ := List.mem_filterMap.1 he
    exact ⟨f.label, ((ends?_eq_some_iff a).1 hends).2.2.symm⟩

theorem clean_of_mem_lines {l : Line} (hl : l ∈ lines a) : l.Clean := by
  intro s hs
  obtain ⟨t, rfl⟩ := exists_label_eq_of_mem_lines a hl hs
  exact isLabel_label t

/-! ### Edges -/

theorem exists_of_indexOf?_eq_some {name : String} {i : Nat} (h : indexOf? a name = some i) :
    ∃ c, a.components[i]? = some c ∧ c.name = name := by
  obtain ⟨hi, hname, -⟩ := List.findIdx?_eq_some_iff_getElem.1 h
  exact ⟨_, List.getElem?_eq_getElem hi, by simpa using hname⟩

theorem isSome_ends? {f : DataFlow} (hf : f ∈ a.validFlows) : (ends? a f).isSome := by
  obtain ⟨-, hsource, htarget⟩ := a.mem_validFlows.1 hf
  have hindex {name : String} (h : (a.component? name).isSome) : ∃ i, indexOf? a name = some i := by
    rw [Analysis.component?, List.find?_isSome] at h
    rw [← Option.isSome_iff_exists, indexOf?, List.findIdx?_isSome]
    simpa using h
  obtain ⟨i, hi⟩ := hindex hsource
  obtain ⟨j, hj⟩ := hindex htarget
  simp [ends?, hi, hj]

theorem length_edges_graph : (graph a).edges.length = a.validFlows.length :=
  List.filterMap_length_eq_length.2 fun _ hf => isSome_ends? a hf

theorem exists_joins_of_mem_edges {i j : Nat} {s : String} (h : (i, j, s) ∈ (graph a).edges) :
    ∃ f ∈ a.validFlows, Joins a i j s f := by
  obtain ⟨f, hf, hends⟩ := List.mem_filterMap.1 h
  obtain ⟨hi, hj, rfl⟩ := (ends?_eq_some_iff a).1 hends
  exact ⟨f, hf, exists_of_indexOf?_eq_some a hi, exists_of_indexOf?_eq_some a hj, rfl⟩

/-! ### Declarations -/

theorem getElem?_components_graph {i : Nat} {c : Shown} : (graph a).components[i]? = some c ↔
    ∃ d, a.components[i]? = some d ∧ c = ⟨d.kind, label d.name, boundaryOf? a d.name⟩ := by
  simp [graph, eq_comm]

theorem bounded_graph : (graph a).Bounded := by
  intro c hc b hb
  obtain ⟨d, -, rfl⟩ := List.mem_map.1 hc
  have henc := encloses_boundaryOf? a d.name
  rw [show boundaryOf? a d.name = some b from hb] at henc
  obtain ⟨t, ht, -⟩ := henc
  simpa [graph] using (List.getElem?_eq_some_iff.1 ht).1

theorem draws_of_mem_nodes {boundary : Option Nat} {n : Node}
    (h : (boundary, n) ∈ (graph a).nodes) : Draws a boundary n := by
  obtain ⟨c, hc, heq⟩ := (getElem?_components_graph a).1 (Graph.mem_nodes.1 h)
  obtain ⟨hkind, hlabel, hboundary⟩ := Shown.mk.inj heq
  exact ⟨c, hc, hlabel, hkind, hboundary ▸ encloses_boundaryOf? a c.name⟩

/-! ### Styles -/

variable {a} {i : Nat} {c : Component}

theorem kind_mem_kinds (hc : c ∈ a.components) : c.kind ∈ (graph a).kinds :=
  Graph.mem_kinds.2 ⟨_, List.mem_map_of_mem hc, rfl⟩

theorem mem_indicesOf_graph_iff (hc : a.components[i]? = some c) {k : ComponentKind} :
    i ∈ (graph a).indicesOf k ↔ k = c.kind := by
  rw [Graph.mem_indicesOf]
  constructor
  · rintro ⟨s, hs, rfl⟩
    obtain ⟨d, hd, rfl⟩ := (getElem?_components_graph a).1 hs
    exact congrArg Component.kind (Option.some.inj (hd.symm.trans hc))
  · rintro rfl
    exact ⟨_, (getElem?_components_graph a).2 ⟨c, hc, rfl⟩, rfl⟩

theorem filter_members (hc : a.components[i]? = some c) :
    ((lines a).filterMap Line.members?).filter (fun m => m.2.contains i) =
      [(c.kind, (graph a).indicesOf c.kind)] := by
  have hkinds :
      (graph a).kinds.filter (fun k => ((graph a).indicesOf k).contains i) = [c.kind] := by
    have hkind (k : ComponentKind) : ((graph a).indicesOf k).contains i = (k == c.kind) := by
      rw [Bool.eq_iff_iff, List.contains_iff_mem, beq_iff_eq, mem_indicesOf_graph_iff hc]
    simp only [hkind]
    rw [List.filter_beq, List.count_eq_one_of_mem (graph a).nodup_kinds
      (kind_mem_kinds (List.mem_of_getElem? hc)), List.replicate_one]
  rw [lines_eq, Graph.members_lines, List.filter_map, Function.comp_def, hkinds, List.map_singleton]

/-! ### The text -/

theorem isChart_lines (a : Analysis) : IsChart a (lines a) where
  header := by
    rw [lines_eq]
    exact ⟨_, rfl, by simp [Graph.block]⟩
  openers := by
    rw [lines_eq, Graph.openers_lines]
    simp [graph, List.zipIdx_map]
  declared := by
    obtain ⟨ds, hds, hperm⟩ := Graph.exists_declarations?_lines (bounded_graph a)
    have hindex := hperm.map (·.2.index)
    rw [Graph.map_index_nodes] at hindex
    refine ⟨ds, by rw [lines_eq, hds], by simpa [graph] using hindex, fun d hd => ?_⟩
    exact draws_of_mem_nodes a (hperm.subset hd)
  length_edges := by rw [lines_eq, Graph.edges_lines, length_edges_graph]
  joined i j s h := by
    rw [lines_eq, Graph.edges_lines] at h
    exact exists_joins_of_mem_edges a h
  members i c hc := by
    have hmem : i ∈ (graph a).indicesOf c.kind := (mem_indicesOf_graph_iff hc).2 rfl
    exact ⟨_, filter_members hc,
      List.count_eq_one_of_mem ((graph a).nodup_indicesOf c.kind) hmem⟩
  styles c hc := by
    rw [lines_eq, Graph.styles_lines]
    exact List.count_eq_one_of_mem (graph a).nodup_kinds (kind_mem_kinds hc)

/-- **Every flowchart is well formed.** Its rows are the lines of a chart of the analysis, and no
label gets out of its quotes. -/
theorem render_isChart (a : Analysis) :
    (render a).toList.splitOn '\n' = (lines a).map (·.text.toList) ++ [[]] ∧
      IsChart a (lines a) ∧ ∀ l ∈ lines a, l.IsQuoted :=
  ⟨splitOn_newline_render fun _ hl => clean_of_mem_lines a hl, isChart_lines a,
    fun _ hl => (clean_of_mem_lines a hl).isQuoted⟩

end ThreatModel.Diagram
