import ThreatModel.Proofs.Architecture.WellFormed

/-!
# The order of files does not matter

Files in another order give the same languages, frameworks, entry points, flows and boundaries, and
the same components in the same order, up to the files that they list (`extract_eq_of_perm`). The
languages are those of the files, each once, ranked by the number of their files and then by name
(`Classification.languages_ranked`).

What is said about a system is either counted (languages), asked of some file (categories,
frameworks) or sorted (entry points). Flows and boundaries are inferred from the names and the kinds
of components, which `Component.outline` keeps.

Sightings in a list stand for what is kept while files are seen one by one: two maps, two sets and
a list, to which each file adds (`Collected.observe`). One file more is one sighting more
(`Collected.Holds.observe`), so after all files both say the same (`collected_eq_classify`).
-/

namespace ThreatModel

/-- What a component is, without the files it was recognized in. -/
def Component.outline (c : Component) : String × ComponentKind × String :=
  (c.name, c.kind, c.description)

variable {ss ts : Classification}

/-! ### What is asked of all files -/

namespace Classification

theorem languageCount_congr (h : ss.Perm ts) : ss.languageCount = ts.languageCount := by
  funext language
  exact h.countP_eq _

theorem languageFirst_congr (h : ss.Perm ts) : ss.languageFirst = ts.languageFirst := by
  funext a b
  rw [languageFirst, languageFirst, languageCount_congr h]

theorem languages_eq_of_perm (h : ss.Perm ts) : ss.languages = ts.languages := by
  rw [languages, languages, languageFirst_congr h, languageCount_congr h]

theorem frameworks_eq_of_perm (h : ss.Perm ts) : ss.frameworks = ts.frameworks := by
  refine List.filter_congr fun name _ => ?_
  exact h.any_eq

theorem filesOf_perm (h : ss.Perm ts) (c : Category) : (ss.filesOf c).Perm (ts.filesOf c) :=
  (h.filter _).map _

theorem categories_eq_of_perm (h : ss.Perm ts) : ss.categories = ts.categories := by
  refine List.filter_congr fun c _ => ?_
  rw [(filesOf_perm h c).isEmpty_eq]

theorem entryPoints_eq_of_perm (h : ss.Perm ts) : ss.entryPoints = ts.entryPoints := by
  rw [entryPoints, entryPoints, mergeSort_le_eq_of_perm ((h.filter _).map _)]

/-- The outlines of components follow from the categories alone. -/
theorem outlines_components (ss : Classification) : ss.components.map Component.outline =
    (if ss.categories = [] then [(fallbackComponent []).outline]
      else ss.categories.map fun c => (c.component []).outline) ++ [userComponent.outline] := by
  rw [components, List.map_append, innerComponents_eq, apply_ite (List.map _), List.map_map]
  rfl

theorem outlines_eq_of_perm (h : ss.Perm ts) :
    ss.components.map Component.outline = ts.components.map Component.outline := by
  rw [outlines_components, outlines_components, categories_eq_of_perm h]

end Classification

/-! ### What is inferred from components -/

variable {cs ds : List Component}

theorem hasNamed_congr (h : cs.map Component.outline = ds.map Component.outline) :
    hasNamed cs = hasNamed ds := by
  have houtline (xs : List Component) (name : String) :
      hasNamed xs name = (xs.map Component.outline).any fun o => o.1 == name := by
    rw [List.any_map]
    rfl
  funext name
  rw [houtline, houtline, h]

theorem namesWhere_congr (h : cs.map Component.outline = ds.map Component.outline)
    (test : ComponentKind → Bool) :
    namesWhere (fun c => test c.kind) cs = namesWhere (fun c => test c.kind) ds := by
  have houtline (xs : List Component) : namesWhere (fun c => test c.kind) xs =
      ((xs.map Component.outline).filter fun o => test o.2.1).map (·.1) := by
    rw [List.filter_map, List.map_map]
    rfl
  rw [houtline, houtline, h]

theorem inferFlows_congr (h : cs.map Component.outline = ds.map Component.outline) :
    inferFlows cs = inferFlows ds := by
  unfold inferFlows entryFlow
  rw [hasNamed_congr h]

theorem inferBoundaries_congr (h : cs.map Component.outline = ds.map Component.outline) :
    inferBoundaries cs = inferBoundaries ds := by
  unfold inferBoundaries
  rw [namesWhere_congr h (· == .config), namesWhere_congr h (· != .external),
    namesWhere_congr h (· == .external)]

/-! ### Languages -/

/-- The language of a file, recognized by its extension. -/
def SourceFile.language? (f : SourceFile) : Option String := f.extension?.bind Signature.language?

/-- How many files are in a language. -/
def SourceSet.languageCount (s : SourceSet) (language : String) : ℕ :=
  s.files.countP fun f => f.language? == some language

namespace Classification

/-- What languages are sorted by: more files first, then the name. -/
def languageKey (ss : Classification) (language : String) : ℕᵒᵈ ×ₗ String :=
  toLex (OrderDual.toDual (ss.languageCount language), language)

theorem languageKey_le_iff {a b : String} : ss.languageKey a ≤ ss.languageKey b ↔
    ss.languageCount b < ss.languageCount a ∨
      (ss.languageCount a = ss.languageCount b ∧ a ≤ b) := by
  simp only [languageKey, Prod.Lex.toLex_le_toLex, OrderDual.toDual_lt_toDual,
    OrderDual.toDual_inj]

theorem comparesBy_languageKey (ss : Classification) (ls : List String) :
    ComparesBy ss.languageFirst ss.languageKey ls := by
  intro a _ b _
  rw [Bool.eq_iff_iff, decide_eq_true_eq, languageKey_le_iff, languageFirst]
  by_cases h : ss.languageCount a = ss.languageCount b
  · simp [h]
  · simp [h]

theorem nodup_languages (ss : Classification) : ss.languages.Nodup := by
  rw [languages, (List.mergeSort_perm _ _).nodup_iff]
  exact (nodup_eraseDups _).filter _

theorem mem_languages_iff {language : String} : language ∈ ss.languages ↔
    language ∈ Signature.languages.map (·.2) ∧ ss.languageCount language ≠ 0 := by
  rw [languages, List.mem_mergeSort, List.mem_filter, List.mem_eraseDups, bne_iff_ne]

/-- Languages with more files come first, those with the same number of files by their names. -/
theorem pairwise_languages (ss : Classification) : ss.languages.Pairwise fun a b =>
    ss.languageCount b < ss.languageCount a ∨
      (ss.languageCount a = ss.languageCount b ∧ a < b) := by
  have hsorted : ss.languages.Pairwise fun a b => ss.languageKey a ≤ ss.languageKey b :=
    pairwise_mergeSort_of_comparesBy (comparesBy_languageKey ss _)
  refine (hsorted.and ss.nodup_languages).imp ?_
  rintro a b ⟨hle, hne⟩
  exact (languageKey_le_iff.1 hle).imp_right fun h => ⟨h.1, lt_of_le_of_ne h.2 hne⟩

end Classification

theorem SourceSet.languageCount_ne_zero_iff (s : SourceSet) {language : String} :
    s.languageCount language ≠ 0 ↔ ∃ f ∈ s.files, f.language? = some language := by
  simp [SourceSet.languageCount, List.countP_eq_zero]

theorem languageCount_classify (s : SourceSet) (language : String) :
    (classify s.files).languageCount language = s.languageCount language := by
  rw [classify, Classification.languageCount, List.countP_map]
  rfl

theorem SourceFile.mem_of_language? {f : SourceFile} {language : String}
    (h : f.language? = some language) : language ∈ Signature.languages.map (·.2) := by
  obtain ⟨ext, -, hext⟩ := Option.bind_eq_some_iff.1 h
  obtain ⟨front, back, htable, -⟩ := List.lookup_eq_some_iff.1 hext
  rw [htable]
  simp

/-- **The languages are those of the files, each once, ranked by their files.** -/
theorem Classification.languages_ranked (s : SourceSet) :
    let ls := (classify s.files).languages
    ls.Nodup ∧ (∀ language, language ∈ ls ↔ ∃ f ∈ s.files, f.language? = some language) ∧
      ls.Pairwise fun a b => s.languageCount b < s.languageCount a ∨
        (s.languageCount a = s.languageCount b ∧ a < b) := by
  intro ls
  refine ⟨nodup_languages _, fun language => ?_, ?_⟩
  · rw [mem_languages_iff, languageCount_classify, s.languageCount_ne_zero_iff]
    refine and_iff_right_of_imp ?_
    rintro ⟨f, -, hf⟩
    exact f.mem_of_language? hf
  · simpa only [languageCount_classify] using pairwise_languages (classify s.files)

/-! ### Files seen one by one -/

/-- What is kept while files are seen one by one: the files of each category, the files in a known
language and how many there are of each, the places of frameworks in their table, and the files at
which programs start. -/
structure Collected where
  filesOf : Category → List String
  sourceFiles : List String
  languageCount : String → ℕ
  frameworks : Finset (Fin Signature.frameworks.length)
  entryPoints : Finset String

namespace Collected

/-- What is kept before the first file. -/
def empty : Collected := ⟨fun _ => [], [], fun _ => 0, ∅, ∅⟩

/-- The place of a framework in the table. -/
def place? (name : String) : Option (Fin Signature.frameworks.length) :=
  Signature.frameworks.findFinIdx? fun f => f.name == name

/-- What is kept after one more file. -/
def observe (k : Collected) (s : Sighting) : Collected where
  filesOf := s.categories.foldl (fun m c => Function.update m c (m c ++ [s.path])) k.filesOf
  sourceFiles := if s.language?.isSome then k.sourceFiles ++ [s.path] else k.sourceFiles
  languageCount := match s.language? with
    | some language =>
      Function.update k.languageCount language (k.languageCount language + 1)
    | none => k.languageCount
  frameworks := k.frameworks ∪ (s.frameworks.filterMap place?).toFinset
  entryPoints := if s.isEntry then insert s.path k.entryPoints else k.entryPoints

variable {k : Collected} {s : Sighting}

theorem place?_eq_some_iff {name : String} {i : Fin Signature.frameworks.length} :
    place? name = some i ↔ Signature.frameworks[i].name = name := by
  have hnodup : (Signature.frameworks.map (·.name)).Nodup := by decide
  have hne := List.pairwise_iff_getElem.1 (List.pairwise_map.1 hnodup)
  rw [place?, List.findFinIdx?_eq_some_iff, beq_iff_eq]
  refine and_iff_left_of_imp ?_
  rintro rfl j hj
  rw [beq_iff_eq]
  exact hne j i j.isLt i.isLt hj

/-- Each category has the file added to its files once. -/
theorem foldl_update_append {cs : List Category} (h : cs.Nodup) (m : Category → List String)
    (path : String) (c : Category) :
    cs.foldl (fun m c => Function.update m c (m c ++ [path])) m c =
      if c ∈ cs then m c ++ [path] else m c := by
  induction cs generalizing m with
  | nil => rfl
  | cons d cs ih =>
    rw [List.nodup_cons] at h
    rw [List.foldl_cons, ih h.2]
    by_cases hc : c = d
    · subst hc
      simp [h.1]
    · simp [hc]

theorem filesOf_observe (k : Collected) (hs : s.categories.Nodup) (c : Category) :
    (k.observe s).filesOf c =
      if c ∈ s.categories then k.filesOf c ++ [s.path] else k.filesOf c :=
  foldl_update_append hs k.filesOf s.path c

theorem languageCount_observe (k : Collected) (s : Sighting) (language : String) :
    (k.observe s).languageCount language =
      k.languageCount language + if s.language? = some language then 1 else 0 := by
  unfold observe
  cases s.language? with
  | none => simp
  | some l =>
    by_cases hl : l = language
    · subst hl
      simp
    · simp [hl, Ne.symm hl]

theorem mem_frameworks_observe {i : Fin Signature.frameworks.length} :
    i ∈ (k.observe s).frameworks ↔
      i ∈ k.frameworks ∨ Signature.frameworks[i].name ∈ s.frameworks := by
  simp [observe, List.mem_filterMap, place?_eq_some_iff]

theorem mem_entryPoints_observe {path : String} :
    path ∈ (k.observe s).entryPoints ↔ path ∈ k.entryPoints ∨ s.isEntry ∧ s.path = path := by
  unfold observe
  cases s.isEntry with
  | false => simp
  | true => simp [or_comm, eq_comm (a := path)]

/-- What is kept agrees with the sightings in the files that were seen. -/
structure Holds (k : Collected) (ss : Classification) : Prop where
  filesOf : k.filesOf = ss.filesOf
  sourceFiles : k.sourceFiles = ss.sourceFiles
  languageCount : k.languageCount = ss.languageCount
  frameworks : ∀ i, i ∈ k.frameworks ↔ ∃ s ∈ ss, Signature.frameworks[i].name ∈ s.frameworks
  entryPoints : ∀ path, path ∈ k.entryPoints ↔ ∃ s ∈ ss, s.isEntry ∧ s.path = path

theorem holds_empty : empty.Holds [] where
  filesOf := rfl
  sourceFiles := rfl
  languageCount := rfl
  frameworks := by simp [empty]
  entryPoints := by simp [empty]

/-- One more file has its sighting behind the others. -/
theorem Holds.observe (h : k.Holds ss) (hs : s.categories.Nodup) :
    (k.observe s).Holds (ss ++ [s]) where
  filesOf := by
    funext c
    rw [filesOf_observe k hs, h.filesOf]
    by_cases hc : c ∈ s.categories
    · simp [Classification.filesOf, hc]
    · simp [Classification.filesOf, hc]
  sourceFiles := by
    rw [Collected.observe, h.sourceFiles]
    by_cases hl : s.language?.isSome
    · simp [Classification.sourceFiles, hl]
    · simp [Classification.sourceFiles, hl]
  languageCount := by
    funext language
    rw [languageCount_observe, h.languageCount]
    simp [Classification.languageCount, List.countP_singleton]
  frameworks := by
    intro i
    rw [mem_frameworks_observe, h.frameworks]
    simp [or_and_right, exists_or]
  entryPoints := by
    intro path
    rw [mem_entryPoints_observe, h.entryPoints]
    simp [or_and_right, exists_or]

theorem holds_foldl (h : ∀ s ∈ ss, s.categories.Nodup) : (ss.foldl observe empty).Holds ss := by
  induction ss using List.reverseRecOn with
  | nil => exact holds_empty
  | append_singleton ss s ih =>
    rw [List.forall_mem_append, List.forall_mem_singleton] at h
    rw [List.foldl_concat]
    exact (ih h.1).observe h.2

/-- The places of frameworks, in their order, give the names as the table has them. -/
theorem Holds.sort_frameworks (h : k.Holds ss) :
    k.frameworks.sort.map (fun i => Signature.frameworks[i].name) = ss.frameworks := by
  let places := (List.finRange Signature.frameworks.length).filter fun i =>
    ss.any fun s => s.frameworks.contains Signature.frameworks[i].name
  have hset : k.frameworks = places.toFinset := by
    ext i
    simp [h.frameworks, places]
  have hsort : k.frameworks.sort = places := by
    rw [hset, List.toFinset_sort]
    · exact (List.pairwise_le_finRange _).filter _
    · exact (List.nodup_finRange _).filter _
  rw [hsort, Classification.frameworks]
  conv_rhs => rw [← List.map_get_finRange Signature.frameworks]
  rw [List.map_map, List.filter_map]
  rfl

theorem Holds.sort_entryPoints (h : k.Holds ss) : k.entryPoints.sort = ss.entryPoints := by
  have hlt : ss.entryPoints.Pairwise (· < ·) := pairwise_eraseDups_mergeSort _
  have hset : k.entryPoints = ss.entryPoints.toFinset := by
    ext path
    simp [h.entryPoints, Classification.entryPoints, List.mem_eraseDups, and_assoc]
  rw [hset, List.toFinset_sort]
  · exact hlt.imp le_of_lt
  · exact nodup_eraseDups _

end Collected

theorem SourceFile.nodup_categories (f : SourceFile) : (Sighting.ofFile f).categories.Nodup := by
  rw [Sighting.ofFile]
  dsimp only
  exact Category.nodup_all.filter _

/-- **What is kept while files are seen one by one is what their sightings say together.** -/
theorem collected_eq_classify (s : SourceSet) :
    let k := s.files.foldl (fun k f => k.observe (.ofFile f)) Collected.empty
    let ss := classify s.files
    k.filesOf = ss.filesOf ∧ k.sourceFiles = ss.sourceFiles ∧ k.languageCount = ss.languageCount ∧
      (∀ language, k.languageCount language ≠ 0 ↔ language ∈ ss.languages) ∧
      k.frameworks.sort.map (fun i => Signature.frameworks[i].name) = ss.frameworks ∧
      k.entryPoints.sort = ss.entryPoints := by
  intro k ss
  have hnodup : ∀ x ∈ ss, x.categories.Nodup := by
    intro x hx
    obtain ⟨f, -, rfl⟩ := List.mem_map.1 hx
    exact f.nodup_categories
  have hfold : k = ss.foldl Collected.observe .empty := List.foldl_map.symm
  have h : k.Holds ss := hfold ▸ Collected.holds_foldl hnodup
  refine ⟨h.filesOf, h.sourceFiles, h.languageCount, fun language => ?_, h.sort_frameworks,
    h.sort_entryPoints⟩
  rw [h.languageCount, languageCount_classify, s.languageCount_ne_zero_iff]
  exact ((Classification.languages_ranked s).2.1 language).symm

/-! ### Analyses -/

/-- **The order of files does not matter for an architecture**, whether they can be read or not and
also if a path occurs twice: all but the lists of files is the same. The languages are those of the
files, each once, the one of the most files first and then by name. -/
theorem extract_eq_of_perm {s t : SourceSet} (h : s.files.Perm t.files)
    (findings findings' : List Finding) (limits : Limits) :
    let a := extract s findings limits
    let b := extract t findings' limits
    (a.languages = b.languages ∧ a.frameworks = b.frameworks ∧ a.entryPoints = b.entryPoints ∧
      a.dataFlows = b.dataFlows ∧ a.trustBoundaries = b.trustBoundaries ∧
      a.components.map Component.outline = b.components.map Component.outline) ∧
    a.languages.Nodup ∧
    (∀ language, language ∈ a.languages ↔ ∃ f ∈ s.files, f.language? = some language) ∧
    a.languages.Pairwise fun l m => s.languageCount m < s.languageCount l ∨
      (s.languageCount l = s.languageCount m ∧ l < m) := by
  intro a b
  have hperm : (classify s.files).Perm (classify t.files) := h.map _
  have houtlines := Classification.outlines_eq_of_perm hperm
  refine ⟨⟨?_, ?_, ?_, ?_, ?_, houtlines⟩, Classification.languages_ranked s⟩
  · exact Classification.languages_eq_of_perm hperm
  · exact Classification.frameworks_eq_of_perm hperm
  · exact congrArg (List.take limits.entryPointsCap) (Classification.entryPoints_eq_of_perm hperm)
  · exact inferFlows_congr houtlines
  · exact inferBoundaries_congr houtlines

/-- Two files, one of which cannot be read, in either order. -/
theorem extract_eq_of_swapped_files :
    let s := SourceSet.ofFiles [.ofText "ui.ts" "", ⟨"app.py", 3, none⟩]
    let t := SourceSet.ofFiles [⟨"app.py", 3, none⟩, .ofText "ui.ts" ""]
    let a := extract s [] {}
    let b := extract t [] {}
    s.files.Perm t.files ∧ "Python" ∈ a.languages ∧ "TypeScript" ∈ a.languages ∧
      a.languages = b.languages ∧ a.entryPoints = b.entryPoints ∧
      a.components.map Component.outline = b.components.map Component.outline := by
  intro s t a b
  have hperm : s.files.Perm t.files := List.Perm.swap _ _ []
  obtain ⟨⟨hlanguages, -, hentries, -, -, houtlines⟩, -, hmem, -⟩ :=
    extract_eq_of_perm hperm [] [] {}
  have hpython : "Python" ∈ a.languages :=
    (hmem "Python").2 ⟨⟨"app.py", 3, none⟩, by simp [s, SourceSet.ofFiles], by cbv⟩
  have htypescript : "TypeScript" ∈ a.languages :=
    (hmem "TypeScript").2 ⟨.ofText "ui.ts" "", by simp [s, SourceSet.ofFiles], by cbv⟩
  exact ⟨hperm, hpython, htypescript, hlanguages, hentries, houtlines⟩

end ThreatModel
