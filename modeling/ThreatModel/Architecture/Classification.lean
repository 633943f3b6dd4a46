import ThreatModel.Architecture.Sighting

/-!
# Classification

What all sightings together say about a system: its components, its languages and frameworks, and
where its programs start. Components stand in the order of the categories, with the external user
last; a system without any recognized category is one service.
-/

namespace ThreatModel

/-- The sightings in a system, in the order of its files. -/
abbrev Classification := List Sighting

/-- The number of files that a component lists at most. -/
def maxComponentFiles : Nat := 50

/-- The name of the component of a system without recognized categories. -/
def fallbackService : String := "Application Service"

/-- The component of a system without recognized categories. -/
def fallbackComponent (files : List String) : Component where
  name := fallbackService
  kind := .service
  files := files.take maxComponentFiles
  description := "Application code with no recognizable architectural layer"

/-- The component of the users of a system. -/
def userComponent : Component where
  name := endUser
  kind := .external
  files := []
  description := "Users and clients reaching the system from outside"

/-- The component of a category. -/
def Category.component (c : Category) (files : List String) : Component where
  name := c.componentName
  kind := c.kind
  files := files.take maxComponentFiles
  description := c.description

namespace Classification

variable (ss : Classification)

/-- The files of a category. -/
def filesOf (c : Category) : List String :=
  (ss.filter fun s => s.categories.contains c).map (·.path)

/-- The categories that have files. -/
def categories : List Category := Category.all.filter fun c => !(ss.filesOf c).isEmpty

/-- The files in a known language. -/
def sourceFiles : List String := (ss.filter fun s => s.language?.isSome).map (·.path)

/-- How many files are in a language. -/
def languageCount (language : String) : Nat := ss.countP fun s => s.language? == some language

/-- Whether a language may stand in front of another: more files first, then by name. -/
def languageFirst (a b : String) : Bool :=
  if ss.languageCount a != ss.languageCount b then
    decide (ss.languageCount b < ss.languageCount a)
  else decide (a ≤ b)

/-- The languages, that of the most files first. -/
def languages : List String :=
  let known := (Signature.languages.map (·.2)).eraseDups
  (known.filter fun l => ss.languageCount l != 0).mergeSort ss.languageFirst

/-- The names of the frameworks, in the order of their table. -/
def frameworks : List String :=
  (Signature.frameworks.map (·.name)).filter fun n => ss.any fun s => s.frameworks.contains n

/-- The files at which programs start, in the order of their paths, each once. -/
def entryPoints : List String :=
  (((ss.filter (·.isEntry)).map (·.path)).mergeSort fun a b => decide (a ≤ b)).eraseDups

/-- The components that are no users. -/
def innerComponents : List Component :=
  match ss.categories with
  | [] => [fallbackComponent ss.sourceFiles]
  | cs => cs.map fun c => c.component (ss.filesOf c)

/-- The components, with the users last. -/
def components : List Component := ss.innerComponents ++ [userComponent]

theorem mem_categories {c : Category} : c ∈ ss.categories ↔ ss.filesOf c ≠ [] := by
  simp [categories, Category.mem_all]

theorem innerComponents_ne_nil : ss.innerComponents ≠ [] := by
  unfold innerComponents
  split
  · simp
  next h => simpa using h

end Classification

end ThreatModel
