import ThreatModel.Architecture.Basic
import ThreatModel.Limits
import ThreatModel.Pattern.Search
import ThreatModel.Scan.Detector
import ThreatModel.Source.File

/-!
# Scanning

Detectors run over the text of every file. Findings stand in the order of the files, then of the
detectors, then of the text; every file has at most a fixed number of them, and the search in it
ends with the last one.

* `gather_eq_take`: a search that ends early has made the first findings of a complete one;
* `length_scanText_le`: the number of findings of a file is bounded;
* `scan_append`: scanning distributes over the files.
-/

namespace ThreatModel

open Text (Cursor)

/-- The line at a place without blanks around it, cut to a number of characters. -/
def snippetAt (maxChars : Nat) (k : Cursor) : String :=
  String.ofList ((Text.trim k.lineText).take maxChars)

/-- The finding of a detector at a place. -/
def Detector.finding (d : Detector) (limits : Limits) (path : String) (k : Cursor) : Finding where
  file := path
  line := k.line
  detector := d.name
  snippet := snippetAt limits.snippetChars k
  severity := d.severity
  description := s!"{d.description} ({d.cwe})"

/-- All findings of a detector in a text. -/
def Detector.findings (d : Detector) (limits : Limits) (path : String) (cs : List Char) :
    List Finding :=
  (d.pattern.occurrences cs).map fun m => d.finding limits path m.first

/-! ### Searching one file -/

/-- The findings made so far with one more. If there are as many as the limits allow then, they are
thrown, which ends the search. -/
def addFinding (limits : Limits) (path : String) (d : Detector) (found : List Finding) (m : Match) :
    Except (List Finding) (List Finding) :=
  let found := found ++ [d.finding limits path m.first]
  if limits.maxFindingsPerFile ≤ found.length then throw found else return found

/-- The findings for the matches of some detectors, one detector after another, as many as the
limits allow. -/
def gather (limits : Limits) (path : String) (find : Detector → List Match)
    (ds : List Detector) : List Finding :=
  if limits.maxFindingsPerFile = 0 then []
  else
    match ds.foldlM (fun found d => (find d).foldlM (addFinding limits path d) found) [] with
    | .ok found | .error found => found

/-- The findings of some detectors in a text, as many as the limits allow. -/
def scanText (ds : List Detector) (limits : Limits) (path text : String) : List Finding :=
  gather limits path (fun d => d.pattern.occurrences text.toList) ds

/-- A search that has made some findings: it goes on if it may make more, and has ended with as many
as it may make otherwise. -/
def stopped (cap : Nat) (found : List Finding) : Except (List Finding) (List Finding) :=
  if found.length < cap then .ok found else .error (found.take cap)

/-- What follows a search that has made some findings only counts if that may make more. -/
theorem stopped_bind {cap : Nat} {found more : List Finding}
    {next : List Finding → Except (List Finding) (List Finding)}
    (hnext : ∀ f, f.length < cap → next f = stopped cap (f ++ more)) :
    stopped cap found >>= next = stopped cap (found ++ more) := by
  by_cases h : found.length < cap
  · rw [stopped, if_pos h]
    exact hnext found h
  · have hmore : ¬ (found ++ more).length < cap := by
      rw [List.length_append]
      omega
    rw [stopped, if_neg h, stopped, if_neg hmore,
      List.take_append_of_le_length (Nat.le_of_not_lt h)]
    rfl

section Search

variable {limits : Limits} {found : List Finding} (path : String) (d : Detector)

/-- One step of the search. -/
theorem addFinding_eq_stopped (h : found.length < limits.maxFindingsPerFile) (m : Match) :
    addFinding limits path d found m =
      stopped limits.maxFindingsPerFile (found ++ [d.finding limits path m.first]) := by
  have hlen : (found ++ [d.finding limits path m.first]).length = found.length + 1 := by simp
  unfold addFinding stopped
  dsimp only
  by_cases hfull : limits.maxFindingsPerFile ≤ found.length + 1
  · rw [hlen, if_pos hfull, if_neg (Nat.not_lt.2 hfull), List.take_of_length_le (by omega)]
    rfl
  · rw [hlen, if_neg hfull, if_pos (Nat.lt_of_not_le hfull)]
    rfl

/-- The search with one detector. -/
theorem foldlM_addFinding (h : found.length < limits.maxFindingsPerFile) (ms : List Match) :
    ms.foldlM (addFinding limits path d) found =
      stopped limits.maxFindingsPerFile
        (found ++ ms.map fun m => d.finding limits path m.first) := by
  induction ms generalizing found with
  | nil =>
    rw [List.foldlM_nil, List.map_nil, List.append_nil, stopped, if_pos h]
    rfl
  | cons m ms ih =>
    rw [List.foldlM_cons, addFinding_eq_stopped path d h, List.map_cons,
      List.append_cons found _ (ms.map _)]
    exact stopped_bind fun f hf => ih hf

/-- The search with all detectors. -/
theorem foldlM_foldlM_addFinding (h : found.length < limits.maxFindingsPerFile)
    (find : Detector → List Match) (ds : List Detector) :
    ds.foldlM (fun found d => (find d).foldlM (addFinding limits path d) found) found =
      stopped limits.maxFindingsPerFile
        (found ++ ds.flatMap fun d => (find d).map fun m => d.finding limits path m.first) := by
  induction ds generalizing found with
  | nil =>
    rw [List.foldlM_nil, List.flatMap_nil, List.append_nil, stopped, if_pos h]
    rfl
  | cons d ds ih =>
    rw [List.foldlM_cons, foldlM_addFinding path d h, List.flatMap_cons, ← List.append_assoc]
    exact stopped_bind fun f hf => ih hf

end Search

/-- **A search that ends early has made the first findings of a complete one.** -/
theorem gather_eq_take (limits : Limits) (path : String) (find : Detector → List Match)
    (ds : List Detector) :
    gather limits path find ds =
      (ds.flatMap fun d => (find d).map fun m => d.finding limits path m.first).take
        limits.maxFindingsPerFile := by
  unfold gather
  by_cases h : limits.maxFindingsPerFile = 0
  · rw [if_pos h, h, List.take_zero]
  · have hpos : ([] : List Finding).length < limits.maxFindingsPerFile := Nat.pos_of_ne_zero h
    rw [if_neg h, foldlM_foldlM_addFinding path hpos, List.nil_append, stopped]
    by_cases hroom : (ds.flatMap fun d =>
        (find d).map fun m => d.finding limits path m.first).length < limits.maxFindingsPerFile
    · rw [if_pos hroom, List.take_of_length_le (Nat.le_of_lt hroom)]
    · rw [if_neg hroom]

theorem scanText_eq_take (ds : List Detector) (limits : Limits) (path text : String) :
    scanText ds limits path text =
      (ds.flatMap fun d => d.findings limits path text.toList).take limits.maxFindingsPerFile :=
  gather_eq_take limits path _ ds

theorem length_scanText_le (ds : List Detector) (limits : Limits) (path text : String) :
    (scanText ds limits path text).length ≤ limits.maxFindingsPerFile := by
  rw [scanText_eq_take, List.length_take]
  exact Nat.min_le_left _ _

/-! ### Reports -/

/-- What a scan of files found. -/
structure ScanReport where
  findings : List Finding
  filesScanned : Nat
  filesSkipped : Nat
  /-- The files with as many findings as the limits allow. -/
  cappedFiles : List String
  deriving DecidableEq, Repr, Inhabited

namespace ScanReport

/-- The report on no files. -/
def empty : ScanReport := ⟨[], 0, 0, []⟩

/-- The report on some files and then others. -/
def join (a b : ScanReport) : ScanReport :=
  ⟨a.findings ++ b.findings, a.filesScanned + b.filesScanned, a.filesSkipped + b.filesSkipped,
    a.cappedFiles ++ b.cappedFiles⟩

@[simp] theorem findings_join (a b : ScanReport) : (a.join b).findings = a.findings ++ b.findings :=
  rfl

@[simp] theorem empty_join (a : ScanReport) : empty.join a = a := by
  simp [join, empty]

theorem join_assoc (a b c : ScanReport) : (a.join b).join c = a.join (b.join c) := by
  simp [join, Nat.add_assoc]

end ScanReport

/-- The report on one file. A file that cannot be read is skipped. -/
def scanFile (ds : List Detector) (limits : Limits) (f : SourceFile) : ScanReport :=
  match f.text? with
  | none => ⟨[], 0, 1, []⟩
  | some text =>
    let found := scanText ds limits f.path text
    let capped :=
      decide (limits.maxFindingsPerFile ≤ found.length) && limits.maxFindingsPerFile != 0
    ⟨found, 1, 0, if capped then [f.path] else []⟩

/-- The report on files. -/
def scan (ds : List Detector) (limits : Limits) : List SourceFile → ScanReport
  | [] => .empty
  | f :: fs => (scanFile ds limits f).join (scan ds limits fs)

theorem scan_append (ds : List Detector) (limits : Limits) (a b : List SourceFile) :
    scan ds limits (a ++ b) = (scan ds limits a).join (scan ds limits b) := by
  induction a with
  | nil => simp [scan]
  | cons f fs ih => simp [scan, ih, ScanReport.join_assoc]

end ThreatModel
