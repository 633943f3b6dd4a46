import ThreatModel.Limits
import ThreatModel.Source.Error
import ThreatModel.Source.Tree

/-!
# Walking file trees

The files of a tree that are worth an analysis. `Tree.eligible` lists them all: directory by
directory, in the order of their names, without excluded directories, most hidden entries, links,
and files that hold no code. `bounded` takes as many as the limits allow.
-/

namespace ThreatModel

/-- Directories of builds, histories, dependencies and caches. -/
def excludedDirectories : List String :=
  ["node_modules", ".git", "dist", "build", "target", "out", ".next", ".nuxt", "__pycache__",
   ".pytest_cache", ".mypy_cache", ".tox", "coverage", ".nyc_output", "vendor", ".venv", "venv",
   "bin", "obj", ".idea", ".vscode", ".gradle"]

/-- Hidden entries that hold configuration. -/
def allowedHidden : List String :=
  [".env", ".env.example", ".env.local", ".env.development", ".env.production", ".env.staging",
   ".github", ".gitlab-ci.yml", ".travis.yml", ".htaccess", ".npmrc"]

/-- Extensions of files that hold no code. -/
def excludedExtensions : List String :=
  ["png", "jpg", "jpeg", "gif", "bmp", "ico", "svg", "webp", "tiff", "psd", "mp3", "mp4", "wav",
   "avi", "mov", "webm", "ogg", "flac", "pdf", "zip", "tar", "gz", "tgz", "bz2", "xz", "7z", "rar",
   "jar", "war", "ear", "class", "exe", "dll", "so", "dylib", "o", "a", "lib", "bin", "wasm", "pyc",
   "pyo", "woff", "woff2", "ttf", "eot", "otf", "map", "lock", "db", "sqlite", "sqlite3",
   "keystore", "dat"]

/-- Names of files that pin dependencies. -/
def lockFiles : List String :=
  ["package-lock.json", "yarn.lock", "pnpm-lock.yaml", "Cargo.lock", "Gemfile.lock", "poetry.lock",
   "Pipfile.lock", "composer.lock", "go.sum", "bun.lockb"]

/-- Whether a file of this name holds no code: pictures, sounds, archives, minified or pinned. -/
def isExcludedFile (name : String) : Bool :=
  let lower := Text.asciiLower name
  lockFiles.contains name || lower.endsWith ".min.js" || lower.endsWith ".min.css" ||
    (SourceFile.extensionOfName? name).any excludedExtensions.contains

/-- Whether an entry is looked at. -/
def keepsEntry (name : String) (t : Tree) : Bool :=
  !(t.isDirectory && excludedDirectories.contains name) &&
    (!name.startsWith "." || allowedHidden.contains name)

/-- Lists of files by the name of the entry they come from, in the order of the names. -/
def inNameOrder (xs : List (String × List SourceFile)) : List SourceFile :=
  (xs.mergeSort fun a b => decide (a.1 ≤ b.1)).flatMap (·.2)

mutual

/-- The files of a tree at a path that are worth an analysis. -/
def Tree.eligibleAt (path : String) : Tree → List SourceFile
  | .file size text? => [⟨path, size, text?⟩]
  | .link _ => []
  | .directory es => inNameOrder (Tree.eligibleIn (path ++ "/") es)

/-- The files of the entries of a directory that are worth an analysis, entry by entry; `lead` is
what stands in front of their names. -/
def Tree.eligibleIn (lead : String) : List (String × Tree) → List (String × List SourceFile)
  | [] => []
  | (name, t) :: es =>
    let files :=
      if !keepsEntry name t || (!t.isDirectory && isExcludedFile name) then []
      else t.eligibleAt (lead ++ name)
    (name, files) :: Tree.eligibleIn lead es

end

/-- All files of a directory that are worth an analysis. -/
def Tree.eligible (t : Tree) : List SourceFile := inNameOrder (Tree.eligibleIn "" t.entries)

/-- The first files that are not too large, at most `room` of them; the rest is not looked at once
one more has been seen. -/
def bounded (maxBytes : Nat) : (room : Nat) → List SourceFile → SourceSet
  | _, [] => ⟨[], false, 0⟩
  | room, f :: fs =>
    -- Files that are too large take no room; they are counted until a file finds none.
    if maxBytes < f.size then
      let s := bounded maxBytes room fs
      { s with skippedOversize := s.skippedOversize + 1 }
    else match room with
      | 0 => ⟨[], true, 0⟩
      | room + 1 =>
        let s := bounded maxBytes room fs
        { s with files := f :: s.files }

/-- The files of a directory within the limits. -/
def collect (limits : Limits) (name : String) (t : Option Tree) :
    Except CollectionError SourceSet :=
  match t with
  | some (.directory es) =>
    .ok (bounded limits.maxFileBytes limits.maxFiles (Tree.directory es).eligible)
  | _ => .error (.notFound name)

end ThreatModel
