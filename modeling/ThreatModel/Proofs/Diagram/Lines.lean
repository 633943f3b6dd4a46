import ThreatModel.Proofs.Diagram.Graph

/-!
# Reading the lines of a flowchart

`declarations?` goes through the blocks of a list of lines and finds the nodes, each with the
boundary around it. For the lines of a graph it finds every node of the graph once, as long as the
boundaries of the components exist (`Graph.exists_declarations?_lines`). The other lines hold the
boundaries, the edges and the kinds of the graph, in order.
-/

namespace ThreatModel.Diagram

/-! ### Segments -/

/-- The segments of a list by the keys of its elements hold the list. -/
theorem flatMap_filter_perm {α β : Type} [DecidableEq β] (key : α → β) {keys : List β}
    {xs : List α} (hnodup : keys.Nodup) (hkeys : ∀ x ∈ xs, key x ∈ keys) :
    (keys.flatMap fun k => xs.filter fun x => key x = k).Perm xs := by
  induction keys generalizing xs with
  | nil =>
    rw [List.eq_nil_iff_forall_not_mem.2 fun x hx => List.not_mem_nil (hkeys x hx)]
    exact .nil
  | cons k ks ih =>
    obtain ⟨hk, hks⟩ := List.nodup_cons.1 hnodup
    -- the other segments are those of the elements without the first key
    have hrest : (ks.flatMap fun k' => (xs.filter fun x => !decide (key x = k)).filter
        fun x => key x = k') = ks.flatMap fun k' => xs.filter fun x => key x = k' := by
      refine List.flatMap_congr fun k' hk' => ?_
      rw [List.filter_filter]
      refine List.filter_congr fun x _ => ?_
      have hne : k' ≠ k := ne_of_mem_of_not_mem hk' hk
      by_cases hx : key x = k' <;> simp [hx, hne]
    have hkeys' : ∀ x ∈ xs.filter (fun x => !decide (key x = k)), key x ∈ ks := by
      intro x hx
      obtain ⟨hmem, hne⟩ := List.mem_filter.1 hx
      exact (List.mem_cons.1 (hkeys x hmem)).resolve_left (by simpa using hne)
    have hperm := ih hks hkeys'
    rw [hrest] at hperm
    exact (hperm.append_left _).trans (List.filter_append_perm _ xs)

/-! ### Nodes and blocks -/

/-- The nodes that lines declare, each with the boundary that is open there. Blocks do not nest and
are closed, and the two kinds of nodes stand where they belong, or there is no answer. -/
def declarations? : Option Nat → List Line → Option (List (Option Nat × Node))
  | none, [] => some []
  | none, .node n :: ls => (declarations? none ls).map ((none, n) :: ·)
  | none, .openBoundary i _ :: ls => declarations? (some i) ls
  | some i, .innerNode n :: ls => (declarations? (some i) ls).map ((some i, n) :: ·)
  | some _, .closeBoundary :: ls => declarations? none ls
  | none, .header :: ls | none, .edge _ _ _ :: ls
  | none, .style _ :: ls | none, .members _ _ :: ls => declarations? none ls
  | _, _ => none

variable {rest : List Line}

theorem declarations?_nodes (ns : List Node) :
    declarations? none (ns.map .node ++ rest) =
      (declarations? none rest).map (ns.map (none, ·) ++ ·) := by
  induction ns with
  | nil => simp
  | cons n ns ih => simp [declarations?, ih, Function.comp_def]

theorem declarations?_innerNodes (i : Nat) (ns : List Node) :
    declarations? (some i) (ns.map .innerNode ++ .closeBoundary :: rest) =
      (declarations? none rest).map (ns.map (some i, ·) ++ ·) := by
  induction ns with
  | nil => simp [declarations?]
  | cons n ns ih => simp [declarations?, ih, Function.comp_def]

/-- Lines that stand outside of the blocks and declare nothing. -/
def Line.IsQuiet : Line → Prop
  | header | edge _ _ _ | style _ | members _ _ => True
  | node _ | openBoundary _ _ | innerNode _ | closeBoundary => False

theorem declarations?_quiet {ls : List Line} (h : ∀ l ∈ ls, l.IsQuiet) :
    declarations? none ls = some [] := by
  induction ls with
  | nil => rfl
  | cons l ls ih =>
    obtain ⟨hl, hls⟩ := List.forall_mem_cons.1 h
    cases l <;> first | exact hl.elim | exact ih hls

namespace Graph

variable (g : Graph)

theorem map_nodesIn (boundary : Option Nat) :
    (g.nodesIn boundary).map (fun x => (boundary, x.2)) = g.nodesIn boundary := by
  have hfst : ∀ x ∈ g.nodesIn boundary, (boundary, x.2) = x := by
    intro x hx
    simp only [nodesIn, List.mem_filter, decide_eq_true_eq] at hx
    rw [← hx.2]
  rw [List.map_congr_left hfst, List.map_id']

theorem declarations?_block (s : String) (i : Nat) :
    declarations? none (g.block s i ++ rest) =
      (declarations? none rest).map (g.nodesIn (some i) ++ ·) := by
  have h := @declarations?_innerNodes rest i ((g.nodesIn (some i)).map (·.2))
  rw [List.map_map, List.map_map, Function.comp_def, Function.comp_def, map_nodesIn] at h
  simpa [block, declarations?] using h

theorem declarations?_blocks (bs : List (String × Nat)) :
    declarations? none (bs.flatMap (fun x => g.block x.1 x.2) ++ rest) =
      (declarations? none rest).map (bs.flatMap (fun x => g.nodesIn (some x.2)) ++ ·) := by
  induction bs with
  | nil => simp
  | cons b bs ih => simp [declarations?_block, ih, Function.comp_def]

/-- The lines of a graph declare its nodes, those outside of the boundaries first. -/
theorem declarations?_lines : declarations? none g.lines =
    some (g.nodesIn none ++ g.boundaries.zipIdx.flatMap fun x => g.nodesIn (some x.2)) := by
  let quiet := g.edges.map (fun x => Line.edge x.1 x.2.1 x.2.2) ++ g.kinds.map .style ++
    g.kinds.map fun k => .members k (g.indicesOf k)
  have hquiet : ∀ l ∈ quiet, l.IsQuiet := by
    simp only [quiet, List.mem_append, List.mem_map]
    rintro l ((⟨e, -, rfl⟩ | ⟨k, -, rfl⟩) | ⟨k, -, rfl⟩) <;> trivial
  have hlines : g.lines = .header :: (((g.nodesIn none).map (·.2)).map .node ++
      (g.boundaries.zipIdx.flatMap (fun x => g.block x.1 x.2) ++ quiet)) := by
    simp [lines, quiet, Function.comp_def]
  rw [hlines, declarations?, declarations?_nodes, declarations?_blocks, declarations?_quiet hquiet,
    List.map_map, Function.comp_def, map_nodesIn]
  simp

/-- The boundaries of the components exist. -/
def Bounded : Prop :=
  ∀ c ∈ g.components, ∀ b, c.boundary = some b → b < g.boundaries.length

variable {g}

theorem Bounded.fst_mem (h : g.Bounded) {x : Option Nat × Node} (hx : x ∈ g.nodes) :
    x.1 ∈ none :: (List.range g.boundaries.length).map some := by
  obtain ⟨⟨c, i⟩, hc, rfl⟩ := List.mem_map.1 hx
  have hmem : c ∈ g.components := List.fst_mem_of_mem_zipIdx hc
  change c.boundary ∈ _
  cases hb : c.boundary with
  | none => exact List.mem_cons_self
  | some b => simpa using h c hmem b hb

/-- **Every node is declared once**, inside its boundary if it has one. -/
theorem exists_declarations?_lines (h : g.Bounded) :
    ∃ ds, declarations? none g.lines = some ds ∧ ds.Perm g.nodes := by
  refine ⟨_, g.declarations?_lines, ?_⟩
  have hnodup : (none :: (List.range g.boundaries.length).map some).Nodup := by
    simp [List.nodup_range.map (Option.some_injective _)]
  have hperm := flatMap_filter_perm Prod.fst hnodup fun _ hx => h.fst_mem hx
  have hblocks : g.boundaries.zipIdx.flatMap (fun x => g.nodesIn (some x.2)) =
      ((List.range g.boundaries.length).map some).flatMap g.nodesIn := by
    rw [List.range_eq_range', ← List.zipIdx_map_snd, List.flatMap_map, List.flatMap_map]
  rw [hblocks]
  exact hperm

end Graph

/-! ### Single lines -/

namespace Line

/-- The number and the label of the boundary that the line opens. -/
def opener? : Line → Option (Nat × String)
  | openBoundary i s => some (i, s)
  | _ => none

/-- The ends and the label of the edge that the line draws. -/
def edge? : Line → Option (Nat × Nat × String)
  | edge i j s => some (i, j, s)
  | _ => none

/-- The kind to which the line gives a style. -/
def style? : Line → Option ComponentKind
  | style k => some k
  | _ => none

/-- The kind of which the line lists the nodes. -/
def members? : Line → Option (ComponentKind × List Nat)
  | members k is => some (k, is)
  | _ => none

end Line

namespace Graph

variable (g : Graph)

/-- What lines hold, found segment by segment. -/
theorem filterMap_lines {α : Type} (f : Line → Option α) (hheader : f .header = none)
    (hnode : ∀ n, f (.node n) = none) (hinner : ∀ n, f (.innerNode n) = none)
    (hclose : f .closeBoundary = none) :
    g.lines.filterMap f =
      g.boundaries.zipIdx.filterMap (fun (s, i) => f (.openBoundary i s)) ++
        g.edges.filterMap (fun (i, j, s) => f (.edge i j s)) ++
        g.kinds.filterMap (fun k => f (.style k)) ++
        g.kinds.filterMap fun k => f (.members k (g.indicesOf k)) := by
  have hblock (s : String) (i : Nat) :
      (g.block s i).filterMap f = (f (.openBoundary i s)).toList := by
    cases h : f (.openBoundary i s) <;> simp [block, List.filterMap_map, hinner, hclose, h]
  have hblocks : (g.boundaries.zipIdx.flatMap fun x => g.block x.1 x.2).filterMap f =
      g.boundaries.zipIdx.filterMap fun x => f (.openBoundary x.2 x.1) := by
    rw [List.filterMap_flatMap, List.filterMap_eq_flatMap_toList]
    simp only [hblock]
  simp [lines, List.filterMap_map, hheader, hnode, hblocks]

theorem openers_lines : g.lines.filterMap Line.opener? = g.boundaries.zipIdx.map Prod.swap := by
  rw [filterMap_lines g _ rfl (fun _ => rfl) (fun _ => rfl) rfl]
  simp [Line.opener?]

theorem edges_lines : g.lines.filterMap Line.edge? = g.edges := by
  rw [filterMap_lines g _ rfl (fun _ => rfl) (fun _ => rfl) rfl]
  simp [Line.edge?]

theorem styles_lines : g.lines.filterMap Line.style? = g.kinds := by
  rw [filterMap_lines g _ rfl (fun _ => rfl) (fun _ => rfl) rfl]
  simp [Line.style?]

theorem members_lines :
    g.lines.filterMap Line.members? = g.kinds.map fun k => (k, g.indicesOf k) := by
  rw [filterMap_lines g _ rfl (fun _ => rfl) (fun _ => rfl) rfl]
  simp [Line.members?]

end Graph

end ThreatModel.Diagram
