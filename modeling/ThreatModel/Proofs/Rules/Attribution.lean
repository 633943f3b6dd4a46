import ThreatModel.Pipeline
import ThreatModel.Proofs.Architecture.WellFormed
import ThreatModel.Proofs.Rules.WellFormed
import ThreatModel.Proofs.Text.Splitting

/-!
# Findings and the components of their files

The threat of a finding names the component of a category of its file exactly if the file is one of
the first 50 of some category (`attributed_iff_listed`), because a component lists no more than that
(`owner?_of_mem_filesOf`). In a system with more files of a category, findings in the last ones are
attributed to no component (`not_attributed_of_many_environments`).
-/

namespace ThreatModel

variable {a : Analysis} {ss : Classification} {file : String}

/-! ### Components that list a file -/

/-- The first category whose component lists a file. -/
def Classification.listing? (ss : Classification) (file : String) : Option Category :=
  Category.all.find? fun c => ((ss.filesOf c).take maxComponentFiles).contains file

namespace Classification

theorem listing?_eq_some {c : Category} (h : ss.listing? file = some c) :
    file ∈ (ss.filesOf c).take maxComponentFiles := by
  simpa using List.find?_some h

theorem isSome_listing?_iff :
    (ss.listing? file).isSome ↔ ∃ c, file ∈ (ss.filesOf c).take maxComponentFiles := by
  simp [listing?, List.find?_isSome, Category.mem_all]

end Classification

/-- The component of a file with a category is that of the first category that lists the file, if
one does. -/
theorem owner?_of_mem_filesOf (hcomponents : a.components = ss.components) {c : Category}
    (h : file ∈ ss.filesOf c) : owner? a file = (ss.listing? file).map (·.componentName) := by
  have hne : ss.categories ≠ [] :=
    List.ne_nil_of_mem ((ss.mem_categories).2 (List.ne_nil_of_mem h))
  -- Users list no files, and categories without files list none either.
  have husers : [userComponent].find? (fun x => x.files.contains file) = none := rfl
  have hlisted : ss.categories.find? (fun c => (c.component (ss.filesOf c)).files.contains file) =
      ss.listing? file := by
    rw [Classification.categories, List.find?_filter]
    refine List.find?_congr fun c _ => ?_
    cases ss.filesOf c <;> simp [Category.component]
  rw [owner?, hcomponents, Classification.components, List.find?_append, husers, Option.or_none,
    ss.innerComponents_eq, if_neg hne, List.find?_map, Option.map_map]
  exact congrArg _ hlisted

/-! ### Threats of findings -/

theorem Profile.componentName_ne_asset (c : Category) :
    ∀ p ∈ generic :: all, c.componentName ≠ p.asset := by
  cases c <;> decide

/-- What the threat of a finding harms: the component of the file, and what the profile says. -/
theorem assets_findingThreat (hcomponents : a.components = ss.components) {f : Finding}
    {c : Category} (h : f.file ∈ ss.filesOf c) : (findingThreat a f).assets =
      ((ss.listing? f.file).map (·.componentName)).toList ++
        [(Profile.forDetector f.detector).asset] := by
  rw [← owner?_of_mem_filesOf hcomponents h]
  rfl

/-- The threat of a finding harms the component of a category of its file exactly if that is the
component that lists the file first. -/
theorem componentName_mem_assets_iff (hcomponents : a.components = ss.components) {f : Finding}
    {c d : Category} (h : f.file ∈ ss.filesOf d) :
    c.componentName ∈ (findingThreat a f).assets ↔ ss.listing? f.file = some c := by
  have hasset : c.componentName ≠ (Profile.forDetector f.detector).asset :=
    Profile.componentName_ne_asset c _ (Profile.forDetector_mem f.detector)
  rw [assets_findingThreat hcomponents h, List.mem_append, List.mem_singleton, or_iff_left hasset,
    Option.mem_toList, Option.map_eq_some_iff]
  constructor
  · rintro ⟨e, he, heq⟩
    rwa [← Category.componentName_inj heq]
  · intro hc
    exact ⟨c, hc, rfl⟩

/-- **A finding is attributed to a component of its file exactly if one lists the file.** In files
that are scanned and analyzed together, whatever they are, the threat of a finding in a file with a
category names the component of a category of that file exactly if the file is among the first 50
files of one; it is then the component of the first such category, and otherwise the threat harms
nothing but what its profile says. -/
theorem attributed_iff_listed (s : SourceSet) (l : Limits) :
    ∀ f ∈ (analyze s l).findings, (∃ c, f.file ∈ (classify s.files).filesOf c) →
      let files := (classify s.files).filesOf
      let assets := (findingThreat (analyze s l) f).assets
      ((∃ c, f.file ∈ files c ∧ c.componentName ∈ assets) ↔ ∃ c, f.file ∈ (files c).take 50) ∧
        assets = ((Category.all.find? fun c => ((files c).take 50).contains f.file).map
          (·.componentName)).toList ++ [(Profile.forDetector f.detector).asset] := by
  intro f _ hclass files assets
  obtain ⟨d, hd⟩ := hclass
  have hcomponents : (analyze s l).components = (classify s.files).components := rfl
  have hnamed (c : Category) : (f.file ∈ files c ∧ c.componentName ∈ assets) ↔
      (classify s.files).listing? f.file = some c := by
    rw [componentName_mem_assets_iff hcomponents hd]
    refine and_iff_right_of_imp fun hc => ?_
    exact (List.take_sublist _ _).subset (Classification.listing?_eq_some hc)
  refine ⟨?_, assets_findingThreat hcomponents hd⟩
  simp only [hnamed]
  rw [← Option.isSome_iff_exists]
  exact Classification.isSome_listing?_iff

/-- A switch in the only settings of a system is attributed to its configuration. -/
theorem attributed_of_one_environment :
    let s := SourceSet.ofFiles [.ofText ".env" "DEBUG=True"]
    let f : Finding := ⟨".env", 1, "debug_enabled", "DEBUG=True", .low, "Debug mode enabled (CWE-489)"⟩
    f ∈ (analyze s {}).findings ∧ f.file ∈ (classify s.files).filesOf .config ∧
      (findingThreat (analyze s {}) f).assets = ["Configuration", "Application internals"] ∧
      ∃ c, f.file ∈ (classify s.files).filesOf c ∧
        c.componentName ∈ (findingThreat (analyze s {}) f).assets := by
  intro s f
  have hf : f ∈ (analyze s {}).findings := by decide +kernel
  have hclass : f.file ∈ (classify s.files).filesOf .config := by decide +kernel
  have hlisted : f.file ∈ ((classify s.files).filesOf .config).take 50 := by decide +kernel
  obtain ⟨hiff, -⟩ := attributed_iff_listed s {} f hf ⟨_, hclass⟩
  exact ⟨hf, hclass, by decide +kernel, hiff.2 ⟨_, hlisted⟩⟩

/-! ### Many files of one category -/

/-- A file with settings of the environment in a directory. -/
def environmentFile (directory text : String) : SourceFile := .ofText (directory ++ "/.env") text

theorem name_environmentFile (directory text : String) :
    (environmentFile directory text).name = ".env" := by
  have hlast : Text.splitLast? '/' (directory ++ "/.env").toList =
      some (directory.toList, ".env".toList) := by
    rw [String.toList_append]
    exact Text.splitLast?_append (by decide) _
  rw [SourceFile.name, SourceFile.nameOfPath, environmentFile, SourceFile.ofText, hlast]
  rfl

/-- Whatever the directory is called and whatever the settings are. -/
theorem categories_environmentFile (directory text : String) :
    (Sighting.ofFile (environmentFile directory text)).categories = [.config] := by
  have hname := name_environmentFile directory text
  have hext : (environmentFile directory text).extension? = none := by
    rw [SourceFile.extension?, hname]
    decide
  have hgateway : Signature.isGatewayName ".env" = false := by decide +kernel
  simp [Sighting.ofFile, hext, hname, hgateway, Category.all, Signature.isConfigFile]

/-- Files with settings, given by their directories and texts. -/
def environments (es : List (String × String)) : List SourceFile :=
  es.map fun e => environmentFile e.1 e.2

theorem filesOf_environments (es : List (String × String)) (c : Category) :
    (classify (environments es)).filesOf c =
      if c = .config then es.map fun e => e.1 ++ "/.env" else [] := by
  have hcategories : ∀ s ∈ classify (environments es), s.categories = [.config] := by
    intro s hs
    obtain ⟨f, hf, rfl⟩ := List.mem_map.1 hs
    obtain ⟨e, -, rfl⟩ := List.mem_map.1 hf
    exact categories_environmentFile e.1 e.2
  rw [Classification.filesOf]
  split_ifs with hc
  · rw [List.filter_eq_self.2 fun s hs => by simp [hcategories s hs, hc], classify, environments,
      List.map_map, List.map_map]
    rfl
  · rw [List.filter_eq_nil_iff.2 fun s hs => by simpa [hcategories s hs] using hc, List.map_nil]

/-- **In a system with many files of a category, a finding can go without a component**: the file is
one of the category, but not one of the first 50. -/
theorem not_attributed_of_many_environments :
    ¬ ∀ (s : SourceSet) (l : Limits), ∀ f ∈ (analyze s l).findings,
      (∃ c, f.file ∈ (classify s.files).filesOf c) →
        ∃ c, f.file ∈ (classify s.files).filesOf c ∧
          c.componentName ∈ (findingThreat (analyze s l) f).assets := by
  intro h
  let others : List (String × String) := (List.range' 10 50).map fun i => (toString i, "")
  let es : List (String × String) := others ++ [("60", "DEBUG=True")]
  let s : SourceSet := .ofFiles (environments es)
  let f : Finding :=
    ⟨"60/.env", 1, "debug_enabled", "DEBUG=True", .low, "Debug mode enabled (CWE-489)"⟩
  have hf : f ∈ (analyze s {}).findings := by
    have hlast : f ∈ (scan Detector.registry {} (environments [("60", "DEBUG=True")])).findings := by
      decide +kernel
    have hfiles : s.files = environments others ++ environments [("60", "DEBUG=True")] :=
      List.map_append
    rw [analyze, extract, hfiles, scan_append]
    exact List.mem_append_right _ hlast
  have hpaths (c : Category) : (classify s.files).filesOf c =
      if c = .config then es.map fun e => e.1 ++ "/.env" else [] := filesOf_environments es c
  have hclass : f.file ∈ (classify s.files).filesOf .config := by
    rw [hpaths]
    decide
  obtain ⟨c, -, hc⟩ := h s {} f hf ⟨_, hclass⟩
  rw [componentName_mem_assets_iff rfl hclass] at hc
  have hlisted := Classification.listing?_eq_some hc
  rw [hpaths] at hlisted
  revert hlisted
  split_ifs
  · decide
  · simp

end ThreatModel
