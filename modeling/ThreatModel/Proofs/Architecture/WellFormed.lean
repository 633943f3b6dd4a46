import ThreatModel.Architecture.Inference
import ThreatModel.Proofs.List.KeySort

/-!
# Inferred architectures are well-formed

Whatever the files of a system hold, its architecture is in order (`architectures_wellFormed`):
components have different names and the users come last, flows join two different components, and
the boundaries are drawn around components that exist. The same holds for a design document.

Everything follows from the list of the categories that were recognized, which is a part of the list
of all categories (`Classification.mem_innerComponents`). A flow between components inside the
system is there exactly if both of its ends are (`inferFlows_eq`).
-/

namespace ThreatModel

variable {ss : Classification} {cs : List Component}

/-! ### Categories -/

namespace Category

theorem nodup_all : all.Nodup := by
  decide

theorem componentName_ne_fallbackService (c : Category) : c.componentName ≠ fallbackService := by
  cases c <;> decide

theorem componentName_ne_endUser (c : Category) : c.componentName ≠ endUser := by
  cases c <;> decide

theorem kind_ne_external (c : Category) : c.kind ≠ .external := by
  cases c <;> decide

theorem kind_eq_config_iff {c : Category} : c.kind = .config ↔ c = .config := by
  cases c <;> decide

end Category

/-! ### Components -/

namespace Classification

theorem nodup_categories (ss : Classification) : ss.categories.Nodup :=
  Category.nodup_all.filter _

theorem mem_categories_iff_exists {c : Category} :
    c ∈ ss.categories ↔ ∃ s ∈ ss, c ∈ s.categories := by
  simp [mem_categories, filesOf]

theorem categories_eq_nil_iff : ss.categories = [] ↔ ∀ s ∈ ss, s.categories = [] := by
  simp only [List.eq_nil_iff_forall_not_mem, mem_categories_iff_exists, not_exists, not_and]
  exact forall_comm.trans (forall_congr' fun _ => forall_comm)

/-- The files of a category are some of all files, in their order. -/
theorem filesOf_sublist (ss : Classification) (c : Category) :
    (ss.filesOf c).Sublist (ss.map (·.path)) :=
  List.filter_sublist.map _

theorem innerComponents_eq (ss : Classification) : ss.innerComponents =
    if ss.categories = [] then [fallbackComponent ss.sourceFiles]
    else ss.categories.map fun c => c.component (ss.filesOf c) := by
  unfold innerComponents
  split
  next h => rw [if_pos h]
  next h => rw [if_neg h]

theorem mem_innerComponents {x : Component} (h : x ∈ ss.innerComponents) :
    (ss.categories = [] ∧ x = fallbackComponent ss.sourceFiles) ∨
      ∃ c ∈ ss.categories, x = c.component (ss.filesOf c) := by
  rw [innerComponents_eq] at h
  split_ifs at h with hnil
  · exact .inl ⟨hnil, List.mem_singleton.1 h⟩
  · obtain ⟨c, hc, rfl⟩ := List.mem_map.1 h
    exact .inr ⟨c, hc, rfl⟩

theorem names_innerComponents (ss : Classification) : ss.innerComponents.map (·.name) =
    if ss.categories = [] then [fallbackService] else ss.categories.map (·.componentName) := by
  rw [innerComponents_eq, apply_ite (List.map _), List.map_map]
  rfl

theorem kind_ne_external {x : Component} (h : x ∈ ss.innerComponents) : x.kind ≠ .external := by
  rcases mem_innerComponents h with ⟨-, rfl⟩ | ⟨c, -, rfl⟩
  · exact ComponentKind.noConfusion
  · exact c.kind_ne_external

theorem name_ne_endUser {x : Component} (h : x ∈ ss.innerComponents) : x.name ≠ endUser := by
  rcases mem_innerComponents h with ⟨-, rfl⟩ | ⟨c, -, rfl⟩
  · have hne : fallbackService ≠ endUser := by decide
    exact hne
  · exact c.componentName_ne_endUser

theorem nodup_names (ss : Classification) : (ss.components.map (·.name)).Nodup := by
  have hinner : (ss.innerComponents.map (·.name)).Nodup := by
    rw [names_innerComponents]
    split
    · exact List.nodup_singleton _
    · exact ss.nodup_categories.map fun _ _ => Category.componentName_inj
  rw [components, List.map_append, List.nodup_append]
  refine ⟨hinner, List.nodup_singleton _, ?_⟩
  intro name hname other hother heq
  obtain ⟨x, hx, rfl⟩ := List.mem_map.1 hname
  rw [List.mem_singleton.1 hother] at heq
  exact name_ne_endUser hx heq

theorem mem_components_external {x : Component} (h : x ∈ ss.components) :
    x.kind = .external ↔ x = userComponent := by
  rcases List.mem_append.1 h with hx | hx
  · have hkind := kind_ne_external hx
    constructor
    · intro he
      exact absurd he hkind
    · rintro rfl
      exact absurd rfl hkind
  · simp [List.mem_singleton.1 hx, userComponent]

/-- There is a component of the whole system exactly if no category was recognized. -/
theorem fallbackService_mem_names_iff :
    fallbackService ∈ ss.components.map (·.name) ↔ ss.categories = [] := by
  have huser : fallbackService ∉ [userComponent].map (·.name) := by decide
  rw [components, List.map_append, List.mem_append, or_iff_left huser, names_innerComponents]
  split_ifs with h
  · simp [h]
  · simp [h, Category.componentName_ne_fallbackService]

theorem componentName_mem_names_iff {c : Category} :
    c.componentName ∈ ss.components.map (·.name) ↔ c ∈ ss.categories := by
  have huser : c.componentName ∉ [userComponent].map (·.name) :=
    fun h => c.componentName_ne_endUser (List.mem_singleton.1 h)
  rw [components, List.map_append, List.mem_append, or_iff_left huser, names_innerComponents]
  split_ifs with h
  · simp [h, c.componentName_ne_fallbackService]
  · exact List.mem_map_of_injective fun _ _ => Category.componentName_inj

/-- The component of a category lists the first files of that category. -/
theorem files_of_mem_components {x : Component} {c : Category} (h : x ∈ ss.components)
    (hc : x.name = c.componentName) :
    ss.filesOf c ≠ [] ∧ x.files = (ss.filesOf c).take maxComponentFiles := by
  rcases List.mem_append.1 h with hx | hx
  · rcases mem_innerComponents hx with ⟨-, rfl⟩ | ⟨d, hd, rfl⟩
    · exact absurd hc.symm c.componentName_ne_fallbackService
    · obtain rfl : d = c := Category.componentName_inj hc
      exact ⟨(mem_categories ss).1 hd, rfl⟩
  · rw [List.mem_singleton.1 hx] at hc
    exact absurd hc.symm c.componentName_ne_endUser

end Classification

/-! ### Flows -/

theorem hasNamed_iff {name : String} : hasNamed cs name = true ↔ ∃ c ∈ cs, c.name = name := by
  simp [hasNamed]

/-- The flows that the rules know between components inside a system. -/
def innerFlows : List DataFlow :=
  [⟨Category.gateway.componentName, Category.api.componentName, some "HTTP", "Proxied requests"⟩,
   ⟨Category.api.componentName, Category.auth.componentName, none, "Credentials and tokens"⟩,
   ⟨Category.api.componentName, Category.database.componentName, some "TCP", "Queries"⟩,
   ⟨Category.auth.componentName, Category.database.componentName, some "TCP", "User records"⟩,
   ⟨Category.api.componentName, Category.queue.componentName, some "AMQP", "Messages"⟩]

/-- The ends of a flow. -/
def DataFlow.ends (f : DataFlow) : String × String := (f.source, f.target)

theorem flowIf_both (cs : List Component) (f : DataFlow) :
    flowIf (hasNamed cs f.source && hasNamed cs f.target) f.source f.target f.protocol f.dataType =
      [f].filter fun f => hasNamed cs f.source && hasNamed cs f.target := by
  rw [flowIf, List.filter_cons, List.filter_nil]

/-- **A flow inside the system is there exactly if both of its ends are.** -/
theorem inferFlows_eq (cs : List Component) : inferFlows cs = entryFlow cs ++
    innerFlows.filter fun f => hasNamed cs f.source && hasNamed cs f.target := by
  have hsplit : innerFlows = [innerFlows[0]] ++ [innerFlows[1]] ++ [innerFlows[2]] ++
    [innerFlows[3]] ++ [innerFlows[4]] := rfl
  rw [hsplit]
  simp only [List.filter_append, ← flowIf_both, ← List.append_assoc]
  rfl

/-- Requests come in from the users or from the part of the system that they look at. -/
theorem mem_entryFlow {f : DataFlow} (h : f ∈ entryFlow cs) :
    (f.source = endUser ∨ f.source = Category.frontend.componentName ∧ hasNamed cs f.source) ∧
      hasNamed cs f.target ∧ f.source ≠ f.target := by
  unfold entryFlow flowIf at h
  dsimp only at h
  split_ifs at h with hfrontend hgateway hapi hfallback
  · rw [List.mem_singleton.1 h]
    rw [Bool.and_eq_true] at hfrontend
    exact ⟨.inr ⟨rfl, hfrontend.1⟩, hfrontend.2, by dsimp only; decide⟩
  · rw [List.mem_singleton.1 h]
    exact ⟨.inl rfl, hgateway, by dsimp only; decide⟩
  · rw [List.mem_singleton.1 h]
    exact ⟨.inl rfl, hapi, by dsimp only; decide⟩
  · rw [List.mem_singleton.1 h]
    exact ⟨.inl rfl, hfallback, by dsimp only; decide⟩
  · cases h

theorem length_entryFlow_le (cs : List Component) : (entryFlow cs).length ≤ 1 := by
  unfold entryFlow flowIf
  dsimp only
  split_ifs <;> simp

theorem innerFlows_ends : (innerFlows.map DataFlow.ends).Nodup ∧
    ∀ f ∈ innerFlows, f.source ≠ f.target ∧ f.source ≠ endUser ∧
      f.source ≠ Category.frontend.componentName := by
  decide

/-- Every flow joins two different components, given that the users are one. -/
theorem joins_of_mem_inferFlows (huser : hasNamed cs endUser) {f : DataFlow}
    (h : f ∈ inferFlows cs) :
    hasNamed cs f.source ∧ hasNamed cs f.target ∧ f.source ≠ f.target := by
  rw [inferFlows_eq] at h
  rcases List.mem_append.1 h with h | h
  · obtain ⟨hsource | ⟨-, hsource⟩, htarget, hne⟩ := mem_entryFlow h
    · exact ⟨hsource ▸ huser, htarget, hne⟩
    · exact ⟨hsource, htarget, hne⟩
  · obtain ⟨hmem, hboth⟩ := List.mem_filter.1 h
    rw [Bool.and_eq_true] at hboth
    exact ⟨hboth.1, hboth.2, (innerFlows_ends.2 f hmem).1⟩

/-- No two flows have the same ends. -/
theorem nodup_ends_inferFlows (cs : List Component) :
    ((inferFlows cs).map DataFlow.ends).Nodup := by
  rw [inferFlows_eq, List.map_append, List.nodup_append]
  refine ⟨?_, innerFlows_ends.1.sublist (List.filter_sublist.map _), ?_⟩
  · have hlen := length_entryFlow_le cs
    match h : entryFlow cs with
    | [] => exact List.nodup_nil
    | [f] => exact List.nodup_singleton _
    | f :: g :: fs => simp [h] at hlen
  · intro e he e' he' heq
    obtain ⟨f, hf, rfl⟩ := List.mem_map.1 he
    obtain ⟨g, hg, rfl⟩ := List.mem_map.1 he'
    obtain ⟨-, huser, hfrontend⟩ := innerFlows_ends.2 g (List.mem_filter.1 hg).1
    have hsource : f.source = g.source := (Prod.mk.inj heq).1
    rcases (mem_entryFlow hf).1 with h | ⟨h, -⟩
    · exact huser (hsource ▸ h)
    · exact hfrontend (hsource ▸ h)

/-! ### Boundaries -/

namespace Classification

theorem namesWhere_external (ss : Classification) :
    namesWhere (·.kind == .external) ss.components = [endUser] := by
  have hinner : ss.innerComponents.filter (·.kind == .external) = [] :=
    List.filter_eq_nil_iff.2 fun x hx => by simpa using kind_ne_external hx
  rw [namesWhere, components, List.filter_append, hinner]
  rfl

theorem filter_categories_beq (ss : Classification) (c : Category) :
    ss.categories.filter (· == c) = if c ∈ ss.categories then [c] else [] := by
  rw [List.filter_beq, ss.nodup_categories.count]
  split_ifs <;> rfl

theorem namesWhere_config (ss : Classification) : namesWhere (·.kind == .config) ss.components =
    if .config ∈ ss.categories then [Category.config.componentName] else [] := by
  have huser : [userComponent].filter (·.kind == .config) = [] := rfl
  have hkind : ((fun x : Component => x.kind == .config) ∘ fun c : Category =>
      c.component (ss.filesOf c)) = (· == .config) := by
    funext c
    rw [Function.comp_apply, Bool.eq_iff_iff, beq_iff_eq, beq_iff_eq]
    exact Category.kind_eq_config_iff
  rw [namesWhere, components, List.filter_append, huser, List.append_nil, innerComponents_eq]
  by_cases hnil : ss.categories = []
  · simp [hnil, fallbackComponent]
  · rw [if_neg hnil, List.filter_map, hkind, filter_categories_beq]
    split_ifs <;> rfl

end Classification

/-! ### Analyses -/

/-- An architecture that is in order, given the paths of the files and what was sighted in them. -/
structure Analysis.WellFormed (a : Analysis) (paths : List String) (ss : Classification) :
    Prop where
  names : (a.components.map (·.name)).Nodup
  users_last : a.components.getLast? = some userComponent
  external_iff : ∀ x ∈ a.components, x.kind = .external ↔ x = userComponent
  inner : ∃ x ∈ a.components, x.kind ≠ .external
  fallback_iff : fallbackService ∈ a.components.map (·.name) ↔ ∀ s ∈ ss, s.categories = []
  category_iff : ∀ c : Category,
    c.componentName ∈ a.components.map (·.name) ↔ ∃ s ∈ ss, c ∈ s.categories
  files : ∀ x ∈ a.components, ∀ c : Category, x.name = c.componentName →
    x.files ≠ [] ∧ x.files.Nodup ∧ x.files.length ≤ 50 ∧ x.files.Sublist paths
  flows : ∀ f ∈ a.dataFlows, (∃ x ∈ a.components, x.name = f.source) ∧
    (∃ x ∈ a.components, x.name = f.target) ∧ f.source ≠ f.target
  flows_once : (a.dataFlows.map DataFlow.ends).Nodup
  boundaries : a.trustBoundaries =
    [⟨internalBoundary, (a.components.filter (·.kind != .external)).map (·.name)⟩,
      ⟨externalBoundary, [endUser]⟩] ++
    if a.hasKind .config then [⟨infrastructureBoundary, [Category.config.componentName]⟩] else []

namespace Classification

theorem hasNamed_endUser (ss : Classification) : hasNamed ss.components endUser = true :=
  hasNamed_iff.2 ⟨userComponent, List.mem_append_right _ (List.mem_singleton_self _), rfl⟩

theorem isSome_find_config (ss : Classification) :
    (ss.components.find? (·.kind == .config)).isSome = decide (.config ∈ ss.categories) := by
  have hnames : (ss.components.find? (·.kind == .config)).isSome = true ↔
      namesWhere (·.kind == .config) ss.components ≠ [] := by
    rw [namesWhere, List.find?_isSome, Ne, List.map_eq_nil_iff, List.filter_eq_nil_iff]
    simp only [not_forall, not_not, exists_prop]
  rw [Bool.eq_iff_iff, hnames, namesWhere_config, decide_eq_true_eq]
  split_ifs with h <;> simp [h]

theorem inferBoundaries_components (ss : Classification) : inferBoundaries ss.components =
    [⟨internalBoundary, (ss.components.filter (·.kind != .external)).map (·.name)⟩,
      ⟨externalBoundary, [endUser]⟩] ++
    if .config ∈ ss.categories then [⟨infrastructureBoundary, [Category.config.componentName]⟩]
    else [] := by
  simp only [inferBoundaries, namesWhere_external, namesWhere_config]
  split_ifs <;> simp_all [namesWhere]

end Classification

/-- **What follows from sightings by the rules is well-formed** if no file was sighted twice. -/
theorem wellFormed_of_components {a : Analysis} {paths : List String}
    (hcomponents : a.components = ss.components) (hflows : a.dataFlows = inferFlows ss.components)
    (hboundaries : a.trustBoundaries = inferBoundaries ss.components)
    (hpaths : ss.map (·.path) = paths) (hnodup : paths.Nodup) : a.WellFormed paths ss where
  names := hcomponents ▸ ss.nodup_names
  users_last := by rw [hcomponents, Classification.components, List.getLast?_concat]
  external_iff x hx := Classification.mem_components_external (hcomponents ▸ hx)
  inner := by
    obtain ⟨x, hx⟩ := List.exists_mem_of_ne_nil _ ss.innerComponents_ne_nil
    refine ⟨x, ?_, Classification.kind_ne_external hx⟩
    rw [hcomponents]
    exact List.mem_append_left _ hx
  fallback_iff := by
    rw [hcomponents, Classification.fallbackService_mem_names_iff,
      Classification.categories_eq_nil_iff]
  category_iff c := by
    rw [hcomponents, Classification.componentName_mem_names_iff,
      Classification.mem_categories_iff_exists]
  files x hx c hc := by
    obtain ⟨hne, hfiles⟩ := Classification.files_of_mem_components (hcomponents ▸ hx) hc
    have hsub : x.files.Sublist paths := by
      rw [hfiles, ← hpaths]
      exact (List.take_sublist _ _).trans (ss.filesOf_sublist c)
    refine ⟨?_, hnodup.sublist hsub, ?_, hsub⟩
    · rw [hfiles, Ne, List.take_eq_nil_iff, not_or]
      exact ⟨Nat.succ_ne_zero _, hne⟩
    · rw [hfiles]
      exact List.length_take_le _ _
  flows f hf := by
    obtain ⟨hsource, htarget, hne⟩ := joins_of_mem_inferFlows ss.hasNamed_endUser (hflows ▸ hf)
    rw [hcomponents]
    exact ⟨hasNamed_iff.1 hsource, hasNamed_iff.1 htarget, hne⟩
  flows_once := hflows ▸ nodup_ends_inferFlows ss.components
  boundaries := by
    have hconfig : a.hasKind .config = decide (.config ∈ ss.categories) := by
      rw [Analysis.hasKind, Analysis.firstOf?, hcomponents, ss.isSome_find_config]
    rw [hboundaries, hconfig, hcomponents, ss.inferBoundaries_components]
    simp only [decide_eq_true_eq]

/-! ### Entry points -/

namespace Classification

theorem pairwise_entryPoints (ss : Classification) : ss.entryPoints.Pairwise (· < ·) :=
  pairwise_eraseDups_mergeSort _

theorem entryPoints_subset (ss : Classification) : ss.entryPoints ⊆ ss.map (·.path) := by
  intro p hp
  rw [entryPoints, List.mem_eraseDups, List.mem_mergeSort] at hp
  exact (List.filter_sublist.map _).subset hp

end Classification

/-- **Every inferred architecture is well-formed**, that of files with different paths and that of a
design document. Entry points are paths of files in strict order, and the paths are listed in the
order of the files; both lists are cut to their limits. -/
theorem architectures_wellFormed :
    (∀ (sources : SourceSet) (findings : List Finding) (limits : Limits), sources.paths.Nodup →
      let a := extract sources findings limits
      a.WellFormed sources.paths (classify sources.files) ∧
        a.entryPoints.Pairwise (· < ·) ∧ a.entryPoints.length ≤ limits.entryPointsCap ∧
        a.entryPoints ⊆ sources.paths ∧ a.fileTree = sources.paths.take limits.fileTreeCap) ∧
      ∀ (name text : String) (findings : List Finding),
        let a := extractDocument name text findings
        a.WellFormed [name] [Sighting.ofDocument name text] ∧
          a.entryPoints = [] ∧ a.fileTree = [name] := by
  constructor
  · intro sources findings limits hnodup a
    have hpaths : (classify sources.files).map (·.path) = sources.paths := List.map_map
    refine ⟨wellFormed_of_components rfl rfl rfl hpaths hnodup, ?_, List.length_take_le _ _, ?_, rfl⟩
    · exact (Classification.pairwise_entryPoints _).sublist (List.take_sublist _ _)
    · rw [← hpaths]
      exact List.Subset.trans (List.take_subset _ _) (Classification.entryPoints_subset _)
  · intro name text findings a
    exact ⟨wellFormed_of_components rfl rfl rfl rfl (List.nodup_singleton name), rfl, rfl⟩

/-- One file is sighted in two categories and cannot be read, and one is configuration. -/
theorem wellFormed_of_mixed_files :
    let sources := SourceSet.ofFiles [⟨"pages/login.js", 9, none⟩, .ofText "main.tf" "sqlx"]
    let a := extract sources [] {}
    sources.paths.Nodup ∧
      a.components.map (·.name) =
        ["Frontend", "Auth Service", "Configuration", "End User"] ∧
      a.WellFormed sources.paths (classify sources.files) := by
  intro sources a
  have hnodup : sources.paths.Nodup := by decide
  exact ⟨hnodup, by cbv, (architectures_wellFormed.1 sources [] {} hnodup).1⟩

end ThreatModel
