import Mathlib
import ThreatModel.Diagram.Flowchart
import ThreatModel.Proofs.Diagram.Label

/-!
# The graph behind a flowchart

What a flowchart shows of an analysis is a `Graph`: the components with their kinds, labels and
boundaries, the labels of the boundaries, and the edges. The lines of the flowchart come from the
graph alone (`lines_eq`).
-/

namespace ThreatModel.Diagram

/-! ### Graphs -/

/-- A component as a flowchart shows it. -/
@[ext]
structure Shown where
  kind : ComponentKind
  label : String
  /-- The number of the boundary around it. -/
  boundary : Option Nat
  deriving DecidableEq, Repr

/-- What a flowchart shows. -/
@[ext]
structure Graph where
  components : List Shown
  /-- The labels of the boundaries. -/
  boundaries : List String
  /-- Edges from a component to a component, both given by number, with a label. -/
  edges : List (Nat × Nat × String)
  deriving DecidableEq, Repr

namespace Graph

variable (g : Graph)

/-- The nodes in the order of the components, each with its boundary. -/
def nodes : List (Option Nat × Node) :=
  g.components.zipIdx.map fun (c, i) => (c.boundary, ⟨i, c.label, c.kind⟩)

/-- The nodes with this boundary. -/
def nodesIn (boundary : Option Nat) : List (Option Nat × Node) :=
  g.nodes.filter fun x => x.1 = boundary

/-- The lines of a boundary. -/
def block (label : String) (index : Nat) : List Line :=
  .openBoundary index label :: (g.nodesIn (some index)).map (.innerNode ·.2) ++ [.closeBoundary]

/-- The kinds of the components. -/
def kinds : List ComponentKind :=
  ComponentKind.all.filter fun k => g.components.any fun c => c.kind == k

/-- The numbers of the components of a kind. -/
def indicesOf (kind : ComponentKind) : List Nat :=
  (g.nodes.filter fun x => x.2.kind == kind).map (·.2.index)

/-- The lines of the flowchart of the graph. -/
def lines : List Line :=
  .header :: (g.nodesIn none).map (.node ·.2) ++
    g.boundaries.zipIdx.flatMap (fun (s, i) => g.block s i) ++
    g.edges.map (fun (i, j, s) => .edge i j s) ++
    g.kinds.map .style ++
    g.kinds.map fun k => .members k (g.indicesOf k)

/-! ### Nodes and kinds -/

theorem map_index_nodes : g.nodes.map (·.2.index) = List.range g.components.length := by
  rw [List.range_eq_range', ← List.zipIdx_map_snd, nodes, List.map_map]
  rfl

theorem nodup_indicesOf (kind : ComponentKind) : (g.indicesOf kind).Nodup := by
  have h : (g.indicesOf kind).Sublist (g.nodes.map (·.2.index)) := List.filter_sublist.map _
  rw [map_index_nodes] at h
  exact h.nodup List.nodup_range

theorem nodup_kinds : g.kinds.Nodup := List.Nodup.filter _ (by decide)

variable {g} {kind : ComponentKind}

theorem mem_nodes {boundary : Option Nat} {n : Node} :
    (boundary, n) ∈ g.nodes ↔ g.components[n.index]? = some ⟨n.kind, n.label, boundary⟩ := by
  obtain ⟨i, s, k⟩ := n
  simp only [nodes, List.mem_map, Prod.mk.injEq, Node.mk.injEq, Prod.exists,
    List.mem_zipIdx_iff_getElem?]
  constructor
  · rintro ⟨c, j, hc, rfl, rfl, rfl, rfl⟩
    exact hc
  · intro hc
    exact ⟨_, i, hc, rfl, rfl, rfl, rfl⟩

theorem mem_indicesOf {i : Nat} :
    i ∈ g.indicesOf kind ↔ ∃ c, g.components[i]? = some c ∧ c.kind = kind := by
  simp only [indicesOf, List.mem_map, List.mem_filter, beq_iff_eq, Prod.exists, mem_nodes]
  constructor
  · rintro ⟨boundary, n, ⟨hn, hkind⟩, rfl⟩
    exact ⟨_, hn, hkind⟩
  · rintro ⟨⟨k, s, boundary⟩, hc, hkind⟩
    exact ⟨boundary, ⟨i, s, k⟩, ⟨hc, hkind⟩, rfl⟩

theorem mem_kinds : kind ∈ g.kinds ↔ ∃ c ∈ g.components, c.kind = kind := by
  have hall : kind ∈ ComponentKind.all := by cases kind <;> decide
  simp [kinds, hall]

end Graph

variable (a : Analysis)

/-- The numbers of the components that a flow joins, with its label. -/
def ends? (f : DataFlow) : Option (Nat × Nat × String) := do
  return (← indexOf? a f.source, ← indexOf? a f.target, label f.label)

/-- What the flowchart of an analysis shows. -/
def graph : Graph where
  components := a.components.map fun c => ⟨c.kind, label c.name, boundaryOf? a c.name⟩
  boundaries := a.trustBoundaries.map fun b => label b.name
  edges := a.validFlows.filterMap (ends? a)

/-! ### The lines come from the graph -/

theorem nodes_graph : (graph a).nodes = a.components.zipIdx.map fun (c, i) =>
    (boundaryOf? a c.name, ⟨i, label c.name, c.kind⟩) := by
  simp [Graph.nodes, graph, List.zipIdx_map, Function.comp_def]

theorem nodes_eq : nodes a = (graph a).nodes.map (·.2) := by
  simp [nodes, nodes_graph, Function.comp_def]

theorem zip_nodes : a.components.zip (nodes a) =
    a.components.zipIdx.map fun (c, i) => (c, ⟨i, label c.name, c.kind⟩) := by
  have h := List.zip_map' (f := Prod.fst) (g := fun (c, i) => (⟨i, label c.name, c.kind⟩ : Node))
    (l := a.components.zipIdx)
  rwa [List.zipIdx_map_fst] at h

theorem nodesIn_eq (boundary : Option Nat) :
    nodesIn a boundary = ((graph a).nodesIn boundary).map (·.2) := by
  rw [nodesIn, zip_nodes, Graph.nodesIn, nodes_graph]
  induction a.components.zipIdx with
  | nil => rfl
  | cons x xs ih =>
    simp only [List.map_cons, List.filterMap_cons, List.filter_cons, decide_eq_true_eq, ih]
    split_ifs <;> rfl

theorem indicesOf_eq (kind : ComponentKind) : indicesOf a kind = (graph a).indicesOf kind := by
  simp [indicesOf, Graph.indicesOf, nodes_eq, List.filter_map, Function.comp_def]

theorem usedKinds_eq : usedKinds a = (graph a).kinds := by
  have hkind : a.hasKind = fun k => a.components.any fun c => c.kind == k := by
    funext k
    rw [Bool.eq_iff_iff, Analysis.hasKind, Analysis.firstOf?, List.find?_isSome, List.any_eq_true]
  simp [usedKinds, Graph.kinds, graph, hkind, List.any_map, Function.comp_def]

theorem ends?_eq_some_iff {f : DataFlow} {i j : Nat} {s : String} : ends? a f = some (i, j, s) ↔
    indexOf? a f.source = some i ∧ indexOf? a f.target = some j ∧ label f.label = s := by
  cases hi : indexOf? a f.source <;> cases hj : indexOf? a f.target <;> simp [ends?, hi, hj]

theorem edge?_eq (f : DataFlow) :
    edge? a f = (ends? a f).map fun (i, j, s) => .edge i j s := by
  cases hi : indexOf? a f.source <;> cases hj : indexOf? a f.target <;> simp [edge?, ends?, hi, hj]

theorem boundaryLines_eq (b : TrustBoundary) (index : Nat) :
    boundaryLines a b index = (graph a).block (label b.name) index := by
  simp [boundaryLines, Graph.block, nodesIn_eq, Function.comp_def]

/-- **The lines of a flowchart come from its graph.** -/
theorem lines_eq : lines a = (graph a).lines := by
  have hblocks : (graph a).boundaries.zipIdx.flatMap (fun x => (graph a).block x.1 x.2) =
      a.trustBoundaries.zipIdx.flatMap fun x => boundaryLines a x.1 x.2 := by
    have hboundaries : (graph a).boundaries = a.trustBoundaries.map fun b => label b.name := rfl
    simp [hboundaries, List.zipIdx_map, List.flatMap_map, boundaryLines_eq]
  have hedges : (graph a).edges.map (fun x => .edge x.1 x.2.1 x.2.2) =
      a.validFlows.filterMap (edge? a) := by
    simp [graph, List.map_filterMap, edge?_eq]
  simp [lines, Graph.lines, hblocks, hedges, nodesIn_eq, usedKinds_eq, indicesOf_eq,
    Function.comp_def]

end ThreatModel.Diagram
