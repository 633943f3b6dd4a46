import ThreatModel.Proofs.Architecture.WellFormed
import ThreatModel.Proofs.Diagram.WellFormed

/-!
# What the blocks of a flowchart hold

`blocks` reads the blocks of the boundaries off the lines of a flowchart. They hold the nodes that
are assigned to each boundary (`blocks_lines`).

In an inferred architecture every component stands in a boundary, so no node is drawn outside of the
blocks (`inferred_blocks_filled`). The boundaries around the system and around its configuration
overlap. The configuration goes to the smaller of them, so that neither block is empty, unless the
system is nothing but configuration: then they are equally small, the first one counts, and the block
of the infrastructure stays empty.
-/

namespace ThreatModel

namespace Diagram

/-! ### Reading blocks -/

/-- The block of a boundary: its number, its label and the nodes inside. -/
structure Block where
  index : Nat
  label : String
  nodes : List Node
  deriving DecidableEq, Repr

/-- The node that the line declares inside a block. -/
def Line.inner? : Line → Option Node
  | innerNode n => some n
  | _ => none

/-- The blocks in a list of lines. -/
def blocks : List Line → List Block
  | [] => []
  | .openBoundary i s :: ls =>
    ⟨i, s, (ls.takeWhile (·.inner?.isSome)).filterMap Line.inner?⟩ :: blocks ls
  | _ :: ls => blocks ls

variable {rest : List Line}

/-- Lines that open no block are passed over. -/
theorem blocks_append {ls : List Line} (h : ∀ l ∈ ls, l.opener? = none) :
    blocks (ls ++ rest) = blocks rest := by
  induction ls with
  | nil => rfl
  | cons l ls ih =>
    obtain ⟨hl, hls⟩ := List.forall_mem_cons.1 h
    cases l with
    | openBoundary i s => cases hl
    | _ => exact ih hls

theorem blocks_eq_nil {ls : List Line} (h : ∀ l ∈ ls, l.opener? = none) : blocks ls = [] := by
  have hnil := @blocks_append [] ls h
  rwa [List.append_nil] at hnil

variable (a : Analysis)

theorem blocks_boundaryLines (t : TrustBoundary) (i : Nat) :
    blocks (boundaryLines a t i ++ rest) =
      ⟨i, label t.name, nodesIn a (some i)⟩ :: blocks rest := by
  have htake (ns : List Node) :
      ((ns.map Line.innerNode ++ .closeBoundary :: rest).takeWhile (·.inner?.isSome)).filterMap
        Line.inner? = ns := by
    induction ns with
    | nil => rfl
    | cons n ns ih => simpa [Line.inner?] using ih
  have hquiet (ns : List Node) :
      blocks (ns.map Line.innerNode ++ .closeBoundary :: rest) = blocks rest := by
    refine blocks_append fun l hl => ?_
    obtain ⟨n, -, rfl⟩ := List.mem_map.1 hl
    rfl
  simp [boundaryLines, blocks, htake, hquiet]

/-- **The blocks of a flowchart** are those of the boundaries, with the nodes assigned to them. -/
theorem blocks_lines : blocks (lines a) =
    a.trustBoundaries.zipIdx.map fun (t, i) => ⟨i, label t.name, nodesIn a (some i)⟩ := by
  let quiet := a.validFlows.filterMap (edge? a) ++ (usedKinds a).map .style ++
    (usedKinds a).map fun k => .members k (indicesOf a k)
  have hquiet : ∀ l ∈ quiet, l.opener? = none := by
    simp only [quiet, List.mem_append, List.mem_map, List.mem_filterMap, edge?_eq,
      Option.map_eq_some_iff]
    rintro l ((⟨f, -, e, -, rfl⟩ | ⟨k, -, rfl⟩) | ⟨k, -, rfl⟩) <;> rfl
  have hfront : ∀ l ∈ Line.header :: (nodesIn a none).map .node, l.opener? = none := by
    simp only [List.mem_cons, List.mem_map]
    rintro l (rfl | ⟨n, -, rfl⟩) <;> rfl
  have hblocks (bs : List (TrustBoundary × Nat)) :
      blocks (bs.flatMap (fun x => boundaryLines a x.1 x.2) ++ quiet) =
        bs.map fun x => ⟨x.2, label x.1.name, nodesIn a (some x.2)⟩ := by
    induction bs with
    | nil => exact blocks_eq_nil hquiet
    | cons b bs ih =>
      rw [List.flatMap_cons, List.append_assoc, blocks_boundaryLines, ih, List.map_cons]
  have hlines : lines a = (.header :: (nodesIn a none).map .node) ++
      (a.trustBoundaries.zipIdx.flatMap (fun x => boundaryLines a x.1 x.2) ++ quiet) := by
    simp [lines, quiet]
  rw [hlines, blocks_append hfront, hblocks]

/-! ### Nodes of a boundary -/

variable {a}

/-- The node of a component. -/
def nodeOf (i : Nat) (c : Component) : Node := ⟨i, label c.name, c.kind⟩

theorem mem_nodesIn {boundary : Option Nat} {n : Node} : n ∈ nodesIn a boundary ↔
    ∃ i c, a.components[i]? = some c ∧ boundaryOf? a c.name = boundary ∧ nodeOf i c = n := by
  simp only [nodesIn, zip_nodes, List.filterMap_map, List.mem_filterMap, Prod.exists,
    List.mem_zipIdx_iff_getElem?, Function.comp_apply, Option.ite_none_right_eq_some,
    Option.some.injEq]
  constructor
  · rintro ⟨c, i, hc, hboundary, rfl⟩
    exact ⟨i, c, hc, hboundary, rfl⟩
  · rintro ⟨i, c, hc, hboundary, rfl⟩
    exact ⟨c, i, hc, hboundary, rfl⟩

theorem nodesIn_ne_nil {boundary : Option Nat} {c : Component} (hc : c ∈ a.components)
    (h : boundaryOf? a c.name = boundary) : nodesIn a boundary ≠ [] := by
  obtain ⟨i, hi⟩ := List.mem_iff_getElem?.1 hc
  exact List.ne_nil_of_mem (mem_nodesIn.2 ⟨i, c, hi, h, rfl⟩)

theorem nodesIn_eq_nil {boundary : Option Nat}
    (h : ∀ c ∈ a.components, boundaryOf? a c.name ≠ boundary) : nodesIn a boundary = [] := by
  rw [List.eq_nil_iff_forall_not_mem]
  intro n hn
  obtain ⟨i, c, hc, hboundary, -⟩ := mem_nodesIn.1 hn
  exact h c (List.mem_of_getElem? hc) hboundary

end Diagram

/-! ### Systems of configuration -/

variable {a : Analysis} {ss : Classification}

namespace Classification

theorem filter_components_inner (ss : Classification) :
    ss.components.filter (·.kind != .external) = ss.innerComponents := by
  have hinner : ss.innerComponents.filter (·.kind != .external) = ss.innerComponents :=
    List.filter_eq_self.2 fun c hc => by simpa using kind_ne_external hc
  rw [components, List.filter_append, hinner]
  exact List.append_nil _

theorem name_eq_configuration_iff {c : Component} (hc : c ∈ ss.innerComponents) :
    c.name = Category.config.componentName ↔ c.kind = .config := by
  rcases mem_innerComponents hc with ⟨-, rfl⟩ | ⟨d, -, rfl⟩
  · exact iff_of_false (Category.componentName_ne_fallbackService _).symm ComponentKind.noConfusion
  · constructor
    · exact fun h => Category.kind_eq_config_iff.2 (Category.componentName_inj h)
    · exact fun h => congrArg Category.componentName (Category.kind_eq_config_iff.1 h)

theorem config_mem_categories {c : Component} (hc : c ∈ ss.innerComponents)
    (hkind : c.kind = .config) : .config ∈ ss.categories := by
  rcases mem_innerComponents hc with ⟨-, rfl⟩ | ⟨d, hd, rfl⟩
  · exact ComponentKind.noConfusion hkind
  · exact Category.kind_eq_config_iff.1 hkind ▸ hd

theorem component_mem_innerComponents {c : Category} (h : c ∈ ss.categories) :
    c.component (ss.filesOf c) ∈ ss.innerComponents := by
  rw [innerComponents_eq, if_neg (List.ne_nil_of_mem h)]
  exact List.mem_map_of_mem h

end Classification

/-- Whether a system is nothing but configuration. -/
def Analysis.onlyConfiguration (a : Analysis) : Bool :=
  a.components.all fun c => c.kind == .external || c.kind == .config

theorem onlyConfiguration_iff (hcomponents : a.components = ss.components) :
    a.onlyConfiguration = true ↔ ∀ c ∈ ss.innerComponents, c.kind = .config := by
  have huser : userComponent.kind = .external := rfl
  simp only [Analysis.onlyConfiguration, hcomponents, Classification.components, List.all_append,
    List.all_cons, List.all_nil, huser, Bool.and_eq_true, List.all_eq_true, Bool.or_eq_true,
    beq_iff_eq]
  constructor
  · exact fun h c hc => (h.1 c hc).resolve_left (Classification.kind_ne_external hc)
  · exact fun h => ⟨fun c hc => .inr (h c hc), by simp⟩

/-- Configuration is the only component inside the system exactly if there is no second one. -/
theorem onlyConfiguration_iff_length_le (hcomponents : a.components = ss.components)
    (h : .config ∈ ss.categories) :
    a.onlyConfiguration = true ↔ ss.innerComponents.length ≤ 1 := by
  rw [onlyConfiguration_iff hcomponents]
  constructor
  · intro hall
    have hnodup : (ss.innerComponents.map (·.name)).Nodup := by
      have hnames := ss.nodup_names
      rw [Classification.components, List.map_append] at hnames
      exact hnames.of_append_left
    have hsub : ss.innerComponents.map (·.name) ⊆ [Category.config.componentName] := by
      intro name hname
      obtain ⟨c, hc, rfl⟩ := List.mem_map.1 hname
      exact List.mem_singleton.2 ((Classification.name_eq_configuration_iff hc).2 (hall c hc))
    simpa using (List.subperm_of_subset hnodup hsub).length_le
  · intro hlen c hc
    have hmem := Classification.component_mem_innerComponents h
    rcases hinner : ss.innerComponents with _ | ⟨x, _ | ⟨y, l⟩⟩
    · simp [hinner] at hc
    · rw [hinner, List.mem_singleton] at hc hmem
      rw [hc, ← hmem]
      rfl
    · simp [hinner] at hlen

namespace Diagram

/-! ### Boundaries of an inferred architecture -/

section

variable (hboundaries : a.trustBoundaries = inferBoundaries ss.components)
include hboundaries

/-- The boundaries, one by one. -/
theorem forall_boundary_iff {p : Nat → TrustBoundary → Prop} :
    (∀ i t, a.trustBoundaries[i]? = some t → p i t) ↔
      p 0 ⟨internalBoundary, ss.innerComponents.map (·.name)⟩ ∧
        p 1 ⟨externalBoundary, [endUser]⟩ ∧
        (.config ∈ ss.categories →
          p 2 ⟨infrastructureBoundary, [Category.config.componentName]⟩) := by
  rw [hboundaries, ss.inferBoundaries_components, ss.filter_components_inner]
  constructor
  · intro h
    exact ⟨h 0 _ rfl, h 1 _ rfl, fun hconfig => h 2 _ (by simp [hconfig])⟩
  · rintro ⟨hinternal, hexternal, hinfrastructure⟩ i t ht
    match i with
    | 0 => exact Option.some.inj ht ▸ hinternal
    | 1 => exact Option.some.inj ht ▸ hexternal
    | i + 2 =>
      split_ifs at ht with hconfig
      · match i with
        | 0 => exact Option.some.inj ht ▸ hinfrastructure hconfig
        | i + 1 => cases ht
      · cases ht

/-- The users stand in their own boundary. -/
theorem boundaryOf?_user : boundaryOf? a userComponent.name = some 1 := by
  have hbounds := (forall_boundary_iff hboundaries).1 fun _ _ => id
  refine boundaryOf?_eq_some_iff.2 ⟨_, hbounds.2.1, List.mem_singleton_self _,
    (forall_boundary_iff hboundaries).2 ⟨fun hmem => ?_, fun _ => .refl _, fun _ hmem => ?_⟩⟩
  · obtain ⟨c, hc, hname⟩ := List.mem_map.1 hmem
    exact absurd hname (Classification.name_ne_endUser hc)
  · exact absurd hmem (by decide)

variable {c : Component} (hc : c ∈ ss.innerComponents)
include hc

/-- What is no configuration, or the only component of the system, stands in the boundary of the
system. -/
theorem boundaryOf?_internal (h : c.kind ≠ .config ∨ ss.innerComponents.length ≤ 1) :
    boundaryOf? a c.name = some 0 := by
  have hbounds := (forall_boundary_iff hboundaries).1 fun _ _ => id
  refine boundaryOf?_eq_some_iff.2 ⟨_, hbounds.1, List.mem_map_of_mem hc,
    (forall_boundary_iff hboundaries).2 ⟨fun _ => .refl _, fun hmem => ?_, fun _ hmem => ?_⟩⟩
  · exact absurd (List.mem_singleton.1 hmem) (Classification.name_ne_endUser hc)
  · have hname := List.mem_singleton.1 hmem
    rcases h with hkind | hlen
    · exact absurd ((Classification.name_eq_configuration_iff hc).1 hname) hkind
    -- The two boundaries are equally small, and the first one counts.
    · have hpos := List.length_pos_of_mem hc
      exact .inr ⟨by simp; omega, Nat.zero_le 2⟩

/-- Configuration beside something else stands in the boundary of the infrastructure. -/
theorem boundaryOf?_infrastructure (hkind : c.kind = .config)
    (hlen : 1 < ss.innerComponents.length) : boundaryOf? a c.name = some 2 := by
  have hbounds := (forall_boundary_iff hboundaries).1 fun _ _ => id
  have hname := (Classification.name_eq_configuration_iff hc).2 hkind
  refine boundaryOf?_eq_some_iff.2 ⟨_, hbounds.2.2 (Classification.config_mem_categories hc hkind),
    List.mem_singleton.2 hname,
    (forall_boundary_iff hboundaries).2 ⟨fun _ => ?_, fun hmem => ?_, fun _ _ => .refl _⟩⟩
  · exact .inl (by simpa using hlen)
  · exact absurd (List.mem_singleton.1 hmem) (Classification.name_ne_endUser hc)

end

theorem node_mem_lines_iff {n : Node} : .node n ∈ lines a ↔ n ∈ nodesIn a none := by
  simp [lines, boundaryLines, edge?_eq]

variable (hcomponents : a.components = ss.components)
  (hboundaries : a.trustBoundaries = inferBoundaries ss.components)

include hboundaries in
/-- The blocks of an inferred architecture. -/
theorem mem_blocks_iff {b : Block} : b ∈ blocks (lines a) ↔
    b = ⟨0, internalBoundary, nodesIn a (some 0)⟩ ∨
      b = ⟨1, externalBoundary, nodesIn a (some 1)⟩ ∨
      .config ∈ ss.categories ∧ b = ⟨2, infrastructureBoundary, nodesIn a (some 2)⟩ := by
  have hinternal : label internalBoundary = internalBoundary := by decide +kernel
  have hexternal : label externalBoundary = externalBoundary := by decide +kernel
  have hinfrastructure : label infrastructureBoundary = infrastructureBoundary := by decide +kernel
  rw [blocks_lines, hboundaries, ss.inferBoundaries_components]
  split_ifs with hconfig <;> simp [hconfig, hinternal, hexternal, hinfrastructure]

include hcomponents hboundaries

/-- Where the components of an inferred architecture stand. -/
theorem place_cases {c : Component} (hc : c ∈ a.components) :
    (c.kind ≠ .config ∨ a.onlyConfiguration = true) ∧ boundaryOf? a c.name = some 0 ∨
      c = userComponent ∧ boundaryOf? a c.name = some 1 ∨
      c.kind = .config ∧ a.onlyConfiguration = false ∧ .config ∈ ss.categories ∧
        boundaryOf? a c.name = some 2 := by
  rw [hcomponents, Classification.components, List.mem_append, List.mem_singleton] at hc
  rcases hc with hc | rfl
  · by_cases hkind : c.kind = .config
    · have hconfig := Classification.config_mem_categories hc hkind
      have honly := onlyConfiguration_iff_length_le hcomponents hconfig
      by_cases hlen : ss.innerComponents.length ≤ 1
      · exact .inl ⟨.inr (honly.2 hlen), boundaryOf?_internal hboundaries hc (.inr hlen)⟩
      · refine .inr (.inr ⟨hkind, ?_, hconfig, ?_⟩)
        · rwa [← Bool.not_eq_true, honly]
        · exact boundaryOf?_infrastructure hboundaries hc hkind (Nat.lt_of_not_le hlen)
    · exact .inl ⟨.inl hkind, boundaryOf?_internal hboundaries hc (.inl hkind)⟩
  · exact .inr (.inl ⟨rfl, boundaryOf?_user hboundaries⟩)

theorem nodesIn_internal_ne_nil : nodesIn a (some 0) ≠ [] := by
  have hinner : ∃ c ∈ ss.innerComponents, c.kind ≠ .config ∨ a.onlyConfiguration = true := by
    by_cases honly : a.onlyConfiguration = true
    · obtain ⟨c, hc⟩ := List.exists_mem_of_ne_nil _ ss.innerComponents_ne_nil
      exact ⟨c, hc, .inr honly⟩
    · rw [onlyConfiguration_iff hcomponents] at honly
      push Not at honly
      obtain ⟨c, hc, hkind⟩ := honly
      exact ⟨c, hc, .inl hkind⟩
  obtain ⟨c, hc, h⟩ := hinner
  have hmem : c ∈ a.components := hcomponents ▸ List.mem_append_left _ hc
  rcases place_cases hcomponents hboundaries hmem with ⟨-, h0⟩ | ⟨rfl, -⟩ | ⟨hkind, honly, -⟩
  · exact nodesIn_ne_nil hmem h0
  · exact absurd rfl (Classification.name_ne_endUser hc)
  · simp [hkind, honly] at h

theorem nodesIn_external_ne_nil : nodesIn a (some 1) ≠ [] :=
  nodesIn_ne_nil (hcomponents ▸ List.mem_append_right _ (List.mem_singleton_self _))
    (boundaryOf?_user hboundaries)

theorem nodesIn_infrastructure_eq_nil_iff (hconfig : .config ∈ ss.categories) :
    nodesIn a (some 2) = [] ↔ a.onlyConfiguration = true := by
  constructor
  · intro hnil
    by_contra honly
    have hc := Classification.component_mem_innerComponents hconfig
    have hlen := Nat.lt_of_not_le (mt (onlyConfiguration_iff_length_le hcomponents hconfig).2 honly)
    exact nodesIn_ne_nil (hcomponents ▸ List.mem_append_left _ hc)
      (boundaryOf?_infrastructure hboundaries hc rfl hlen) hnil
  · intro honly
    refine nodesIn_eq_nil fun c hc htwo => ?_
    rcases place_cases hcomponents hboundaries hc with ⟨-, h⟩ | ⟨-, h⟩ | ⟨-, hnot, -⟩
    · cases h.symm.trans htwo
    · cases h.symm.trans htwo
    · cases honly.symm.trans hnot

omit hcomponents hboundaries

/-- A flowchart in which all blocks have nodes, as far as that can be. -/
structure FillsBlocks (a : Analysis) : Prop where
  /-- The rows of the text are the lines. -/
  rows : (render a).toList.splitOn '\n' = (lines a).map (·.text.toList) ++ [[]]
  /-- No node stands outside of the blocks. -/
  outside : ∀ n, .node n ∉ lines a
  /-- Every component is drawn in a block. -/
  drawn : ∀ i c, a.components[i]? = some c → ∃ b ∈ blocks (lines a), nodeOf i c ∈ b.nodes
  /-- Configuration is drawn in the block of the infrastructure, unless there is nothing else. -/
  config : ∀ i c, a.components[i]? = some c → c.kind = .config →
    ∃ b ∈ blocks (lines a), nodeOf i c ∈ b.nodes ∧
      b.label = if a.onlyConfiguration then internalBoundary else infrastructureBoundary
  /-- The only block without nodes is that of the infrastructure of a system that is nothing but
  configuration. -/
  nodes_eq_nil_iff : ∀ b ∈ blocks (lines a),
    b.nodes = [] ↔ b.label = infrastructureBoundary ∧ a.onlyConfiguration = true

theorem fillsBlocks_of_components (hcomponents : a.components = ss.components)
    (hboundaries : a.trustBoundaries = inferBoundaries ss.components) : FillsBlocks a := by
  have hplace {i : Nat} {c : Component} (hc : a.components[i]? = some c) :=
    place_cases hcomponents hboundaries (List.mem_of_getElem? hc)
  have hblocks {b : Block} := mem_blocks_iff hboundaries (b := b)
  have hmem {i j : Nat} {c : Component} (hc : a.components[i]? = some c)
      (h : boundaryOf? a c.name = some j) : nodeOf i c ∈ nodesIn a (some j) :=
    mem_nodesIn.2 ⟨i, c, hc, h, rfl⟩
  constructor
  case rows => exact splitOn_newline_render fun _ hl => clean_of_mem_lines a hl
  case outside =>
    intro n hn
    obtain ⟨i, c, hc, hnone, -⟩ := mem_nodesIn.1 (node_mem_lines_iff.1 hn)
    rcases hplace hc with ⟨-, h⟩ | ⟨-, h⟩ | ⟨-, -, -, h⟩ <;> cases h.symm.trans hnone
  case drawn =>
    intro i c hc
    rcases hplace hc with ⟨-, h⟩ | ⟨-, h⟩ | ⟨-, -, hconfig, h⟩
    · exact ⟨_, hblocks.2 (.inl rfl), hmem hc h⟩
    · exact ⟨_, hblocks.2 (.inr (.inl rfl)), hmem hc h⟩
    · exact ⟨_, hblocks.2 (.inr (.inr ⟨hconfig, rfl⟩)), hmem hc h⟩
  case config =>
    intro i c hc hkind
    rcases hplace hc with ⟨honly, h⟩ | ⟨rfl, -⟩ | ⟨-, honly, hconfig, h⟩
    · rw [if_pos (honly.resolve_left (not_not_intro hkind))]
      exact ⟨_, hblocks.2 (.inl rfl), hmem hc h, rfl⟩
    · cases hkind
    · rw [honly]
      exact ⟨_, hblocks.2 (.inr (.inr ⟨hconfig, rfl⟩)), hmem hc h, rfl⟩
  case nodes_eq_nil_iff =>
    intro b hb
    rcases hblocks.1 hb with rfl | rfl | ⟨hconfig, rfl⟩
    · exact iff_of_false (nodesIn_internal_ne_nil hcomponents hboundaries)
        fun h => absurd h.1 (by simp [internalBoundary, infrastructureBoundary])
    · exact iff_of_false (nodesIn_external_ne_nil hcomponents hboundaries)
        fun h => absurd h.1 (by simp [externalBoundary, infrastructureBoundary])
    · exact (nodesIn_infrastructure_eq_nil_iff hcomponents hboundaries hconfig).trans
        (and_iff_right rfl).symm

/-- **In the flowchart of an inferred architecture the blocks have nodes**, all nodes stand in
blocks, and configuration stands in the block of the infrastructure, for files and for a document.
The one exception is a system that is nothing but configuration: there the boundaries of the system
and of the infrastructure are equally small and the first one counts. -/
theorem inferred_blocks_filled :
    (∀ sources findings limits, FillsBlocks (extract sources findings limits)) ∧
      ∀ name text findings, FillsBlocks (extractDocument name text findings) :=
  ⟨fun _ _ _ => fillsBlocks_of_components rfl rfl,
    fun _ _ _ => fillsBlocks_of_components rfl rfl⟩

/-- The flowchart of a system of which only settings are known has an empty block: the settings are
drawn in the boundary of the system. -/
theorem empty_block_of_settings :
    let a := extract (SourceSet.ofFiles [.ofText ".env" "DEBUG=1"]) [] {}
    blocks (lines a) =
      [⟨0, "Internal Network", [⟨0, "Configuration", .config⟩]⟩,
       ⟨1, "External / Internet", [⟨1, "End User", .external⟩]⟩,
       ⟨2, "Infrastructure", []⟩] ∧
      ¬ ∀ b ∈ blocks (lines a), b.nodes ≠ [] := by
  intro a
  have hblocks : blocks (lines a) =
      [⟨0, "Internal Network", [⟨0, "Configuration", .config⟩]⟩,
       ⟨1, "External / Internet", [⟨1, "End User", .external⟩]⟩,
       ⟨2, "Infrastructure", []⟩] := by
    decide +kernel
  refine ⟨hblocks, fun h => ?_⟩
  rw [hblocks] at h
  exact h ⟨2, "Infrastructure", []⟩ (by simp) rfl

end Diagram
end ThreatModel
