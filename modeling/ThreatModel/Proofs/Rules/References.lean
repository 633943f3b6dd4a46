import ThreatModel.Proofs.Architecture.WellFormed
import ThreatModel.Proofs.Rules.WellFormed

/-!
# Threats by rules stay inside the analysis

In the analysis of files or of a document, every threat by rules stands at a trust boundary of that
analysis, and a threat of the architecture harms a component inside the system
(`references_inside`). What stands for a system without components is never used.

The tables only know three boundaries: two are always there, and the third is replaced where it is
missing (`exists_profileBoundary`). The component that users reach first is inside the system in all
three ways in which it can be found (`exists_inner_of_entryComponent?`): a flow from the users does
not end at them, and the other two ways look at the kind of the component.
-/

namespace ThreatModel

variable {a : Analysis} {ss : Classification}

/-! ### Boundaries -/

/-- The names of the boundaries that the rules speak of. -/
def boundaryNames : List String := [internalBoundary, externalBoundary, infrastructureBoundary]

theorem Profile.boundary_mem_boundaryNames :
    ∀ p ∈ generic :: all, p.boundary ∈ boundaryNames := by
  decide

/-- The two boundaries that are drawn around all components are there. -/
structure Analysis.Bounded (a : Analysis) : Prop where
  inside : ∃ b ∈ a.trustBoundaries, b.name = internalBoundary
  outside : ∃ b ∈ a.trustBoundaries, b.name = externalBoundary

theorem bounded_of_inferBoundaries {cs : List Component}
    (h : a.trustBoundaries = inferBoundaries cs) : a.Bounded where
  inside := ⟨_, by rw [h]; exact List.mem_cons_self, rfl⟩
  outside := ⟨_, by rw [h]; exact List.mem_cons_of_mem _ List.mem_cons_self, rfl⟩

theorem exists_profileBoundary (h : a.Bounded) {p : Profile} (hp : p.boundary ∈ boundaryNames) :
    ∃ b ∈ a.trustBoundaries, b.name = profileBoundary a p := by
  unfold profileBoundary
  split_ifs with hmissing
  · exact h.inside
  · simp only [boundaryNames, List.mem_cons, List.not_mem_nil, or_false] at hp
    rcases hp with hp | hp | hp
    · exact hp ▸ h.inside
    · exact hp ▸ h.outside
    · -- The profile asks for the third boundary, so that it must be there.
      simpa [hp] using hmissing

theorem exists_boundary_of_mem_targetThreats (h : a.Bounded) {name : String} {d : Draft}
    (hd : d ∈ targetThreats name) : ∃ b ∈ a.trustBoundaries, b.name = d.boundary := by
  simp only [targetThreats, List.mem_cons, List.not_mem_nil, or_false] at hd
  rcases hd with rfl | rfl | rfl | rfl | rfl
  · exact h.outside
  · exact h.outside
  · exact h.inside
  · exact h.inside
  · exact h.inside

/-- **Every threat by rules stands at a boundary of the analysis.** -/
theorem exists_boundary_of_mem_ruleThreats (h : a.Bounded) {d : Draft} (hd : d ∈ ruleThreats a) :
    ∃ b ∈ a.trustBoundaries, b.name = d.boundary := by
  rcases List.mem_append.1 hd with hd | hd
  · obtain ⟨f, -, rfl⟩ := List.mem_map.1 hd
    exact exists_profileBoundary h
      (Profile.boundary_mem_boundaryNames _ (Profile.forDetector_mem f.detector))
  · obtain ⟨name, hd, -⟩ := exists_of_mem_architectureThreats hd
    exact exists_boundary_of_mem_targetThreats h hd

/-! ### Components -/

/-- A component inside the system has this name. -/
def Analysis.HasInner (a : Analysis) (name : String) : Prop :=
  ∃ c ∈ a.components, c.kind ≠ .external ∧ c.name = name

theorem assets_of_mem_targetThreats {name : String} {d : Draft} (hd : d ∈ targetThreats name) :
    d.assets = [name] := by
  simp only [targetThreats, List.mem_cons, List.not_mem_nil, or_false] at hd
  rcases hd with rfl | rfl | rfl | rfl | rfl <;> rfl

/-- What users reach first is inside the system if no flow from them goes back to them. -/
theorem exists_inner_of_entryComponent?
    (h : ∀ f ∈ a.validFlows, f.source = endUser → a.HasInner f.target) {e : String}
    (he : entryComponent? a = some e) : a.HasInner e := by
  unfold entryComponent? at he
  split at he
  next f hf =>
    cases he
    exact h f (List.mem_of_find?_eq_some hf) (by simpa using List.find?_some hf)
  next =>
    split at he
    next c hc =>
      cases he
      have hkind : c.kind = .frontend := by simpa using List.find?_some hc
      exact ⟨c, List.mem_of_find?_eq_some hc, by simp [hkind], rfl⟩
    next =>
      obtain ⟨c, hc, rfl⟩ := Option.map_eq_some_iff.1 he
      exact ⟨c, List.mem_of_find?_eq_some hc, by simpa using List.find?_some hc, rfl⟩

/-- Users reach something in a system that has a component inside. -/
theorem entryComponent?_ne_none (h : ∃ c ∈ a.components, c.kind ≠ .external) :
    entryComponent? a ≠ none := by
  obtain ⟨c, hc, hkind⟩ := h
  unfold entryComponent?
  split
  next => exact Option.some_ne_none _
  next =>
    split
    next => exact Option.some_ne_none _
    next =>
      intro hnone
      exact hkind (by simpa using List.find?_eq_none.1 (Option.map_eq_none_iff.1 hnone) c hc)

namespace Classification

/-- Whatever stands for a system without components is no name of a component. -/
theorem unnamedApplication_notMem_names (ss : Classification) :
    unnamedApplication ∉ ss.components.map (·.name) := by
  have hcategory (c : Category) : unnamedApplication ≠ c.componentName := by
    cases c <;> decide
  have hother : unnamedApplication ≠ fallbackService ∧ unnamedApplication ≠ endUser := by
    decide
  rw [components, List.map_append, names_innerComponents, List.mem_append, not_or]
  constructor
  · split_ifs
    · simpa using hother.1
    · simpa [eq_comm] using fun c _ => hcategory c
  · simpa [userComponent] using hother.2

/-- A flow from the users ends inside the system. -/
theorem hasInner_of_source_eq_endUser (hcomponents : a.components = ss.components)
    (hflows : a.dataFlows = inferFlows ss.components) :
    ∀ f ∈ a.validFlows, f.source = endUser → a.HasInner f.target := by
  intro f hf hsource
  have hmem : f ∈ inferFlows ss.components := hflows ▸ (a.mem_validFlows.1 hf).1
  obtain ⟨-, htarget, hne⟩ := joins_of_mem_inferFlows ss.hasNamed_endUser hmem
  obtain ⟨c, hc, hname⟩ := hasNamed_iff.1 htarget
  refine ⟨c, hcomponents ▸ hc, fun hkind => hne ?_, hname⟩
  rw [hsource, ← hname, (mem_components_external hc).1 hkind]
  rfl

end Classification

/-! ### Analyses -/

/-- What threats by rules refer to is part of the analysis. -/
structure Analysis.RefersInside (a : Analysis) : Prop where
  boundary : ∀ d ∈ ruleThreats a, ∃ b ∈ a.trustBoundaries, b.name = d.boundary
  asset : ∀ d ∈ architectureThreats a,
    ∃ c ∈ a.components, c.kind ≠ .external ∧ d.assets = [c.name]
  named : ∀ d ∈ architectureThreats a, unnamedApplication ∉ d.assets

theorem refersInside_of_components (hcomponents : a.components = ss.components)
    (hflows : a.dataFlows = inferFlows ss.components)
    (hboundaries : a.trustBoundaries = inferBoundaries ss.components) : a.RefersInside := by
  have hinner : ∃ c ∈ a.components, c.kind ≠ .external := by
    obtain ⟨c, hc⟩ := List.exists_mem_of_ne_nil _ ss.innerComponents_ne_nil
    exact ⟨c, hcomponents ▸ List.mem_append_left _ hc, Classification.kind_ne_external hc⟩
  have hasset : ∀ d ∈ architectureThreats a,
      ∃ c ∈ a.components, c.kind ≠ .external ∧ d.assets = [c.name] := by
    intro d hd
    obtain ⟨name, hd, hentry | ⟨c, hc, hkind, rfl⟩ | ⟨hnone, -⟩⟩ :=
      exists_of_mem_architectureThreats hd
    · obtain ⟨c, hc, hkind, rfl⟩ := exists_inner_of_entryComponent?
        (Classification.hasInner_of_source_eq_endUser hcomponents hflows) hentry
      exact ⟨c, hc, hkind, assets_of_mem_targetThreats hd⟩
    · exact ⟨c, hc, hkind, assets_of_mem_targetThreats hd⟩
    · exact absurd hnone (entryComponent?_ne_none hinner)
  refine ⟨fun d => exists_boundary_of_mem_ruleThreats (bounded_of_inferBoundaries hboundaries),
    hasset, fun d hd hmem => ?_⟩
  obtain ⟨c, hc, -, hassets⟩ := hasset d hd
  rw [hassets, List.mem_singleton] at hmem
  exact ss.unnamedApplication_notMem_names
    (hmem ▸ List.mem_map_of_mem (hcomponents ▸ hc))

/-- **Threats by rules refer only to what is in the analysis**, for files and for a document and
whatever was found in them: to its trust boundaries and, where they follow from the architecture, to
one of its components inside the system. -/
theorem references_inside :
    (∀ sources findings limits, (extract sources findings limits).RefersInside) ∧
      ∀ name text findings, (extractDocument name text findings).RefersInside :=
  ⟨fun _ _ _ => refersInside_of_components rfl rfl rfl,
    fun _ _ _ => refersInside_of_components rfl rfl rfl⟩

/-- No flow starts at the users of an application that runs in their browser, and a secret in it
stands at the boundary of the system because there is no infrastructure. -/
theorem references_inside_of_browser :
    let secret : Finding := ⟨"pages/a.js", 1, "hardcoded_secret", "", .critical, ""⟩
    let a := extract (SourceSet.ofFiles [⟨"pages/a.js", 9, none⟩, ⟨"api/b.js", 9, none⟩]) [secret] {}
    a.dataFlows.map DataFlow.ends = [("Frontend", "API Server")] ∧
      (findingThreat a secret ∈ ruleThreats a ∧
        ∃ b ∈ a.trustBoundaries, b.name = (findingThreat a secret).boundary) ∧
      unauthenticatedAccess "Frontend" ∈ architectureThreats a ∧
        ∃ c ∈ a.components, c.kind ≠ .external ∧
          (unauthenticatedAccess "Frontend").assets = [c.name] := by
  intro secret a
  have hrefers : a.RefersInside := references_inside.1 _ _ _
  have hfinding : findingThreat a secret ∈ ruleThreats a :=
    findingThreat_mem_ruleThreats List.mem_cons_self
  have hthreats : architectureThreats a =
      [unauthenticatedAccess "Frontend", requestFlooding "Frontend"] := by decide +kernel
  have hentry : unauthenticatedAccess "Frontend" ∈ architectureThreats a :=
    hthreats ▸ List.mem_cons_self
  exact ⟨by decide +kernel, ⟨hfinding, hrefers.boundary _ hfinding⟩, hentry,
    hrefers.asset _ hentry⟩

end ThreatModel
