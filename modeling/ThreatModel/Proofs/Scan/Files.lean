import Mathlib
import ThreatModel.Scan.Scanner

/-!
# Scanning goes file by file

A scan is a fold of reports on single files (`scan_eq_foldl`), and nothing is carried from one file
to the next: a report on files is put together from the reports on its parts, every file is counted
once, and a file that cannot be read leaves the findings of the others as they are
(`scan_goes_fileByFile`).
-/

namespace ThreatModel

variable (ds : List Detector) (limits : Limits)

/-! ### Reports -/

/-- **A scan adds the report on one file after another.** -/
theorem scan_eq_foldl (fs : List SourceFile) :
    scan ds limits fs = fs.foldl (fun r f => r.join (scanFile ds limits f)) .empty := by
  have hfold (r : ScanReport) :
      fs.foldl (fun r f => r.join (scanFile ds limits f)) r = r.join (scan ds limits fs) := by
    induction fs generalizing r with
    | nil => simp [scan, ScanReport.join, ScanReport.empty]
    | cons f fs ih => rw [List.foldl_cons, ih, ScanReport.join_assoc, scan]
  rw [hfold, ScanReport.empty_join]

theorem scan_singleton (f : SourceFile) : scan ds limits [f] = scanFile ds limits f := by
  rw [scan_eq_foldl, List.foldl_cons, List.foldl_nil, ScanReport.empty_join]

theorem findings_scan (fs : List SourceFile) :
    (scan ds limits fs).findings = fs.flatMap fun f => (scanFile ds limits f).findings := by
  induction fs with
  | nil => rfl
  | cons f fs ih => rw [scan, ScanReport.findings_join, ih, List.flatMap_cons]

/-! ### Single files -/

theorem scanFile_of_text?_eq_none {f : SourceFile} (h : f.text? = none) :
    scanFile ds limits f = ⟨[], 0, 1, []⟩ := by
  rw [scanFile, h]

theorem counted_scanFile (f : SourceFile) :
    (scanFile ds limits f).filesScanned + (scanFile ds limits f).filesSkipped = 1 := by
  unfold scanFile
  split <;> rfl

theorem file_of_mem_scanText {path text : String} {x : Finding}
    (hx : x ∈ scanText ds limits path text) : x.file = path := by
  rw [scanText_eq_take] at hx
  obtain ⟨d, -, hd⟩ := List.mem_flatMap.1 (List.mem_of_mem_take hx)
  obtain ⟨m, -, rfl⟩ := List.mem_map.1 hd
  rfl

/-- A file has a bounded number of findings, all in that file. -/
theorem bounded_scanFile (f : SourceFile) :
    (scanFile ds limits f).findings.length ≤ limits.maxFindingsPerFile ∧
      ∀ x ∈ (scanFile ds limits f).findings, x.file = f.path := by
  unfold scanFile
  split
  next => exact ⟨Nat.zero_le _, by simp⟩
  next text _ =>
    exact ⟨length_scanText_le ds limits f.path text, fun x hx => file_of_mem_scanText ds limits hx⟩

/-! ### Sets of files -/

/-- A file, or the one that cannot be read and stands in its place, of this path and size. -/
def replaced : SourceFile × Option (String × Nat) → SourceFile
  | (f, none) => f
  | (_, some (path, size)) => ⟨path, size, none⟩

/-- What a scan does, given the number of findings that a file may have. -/
structure GoesFileByFile (scan : List SourceFile → ScanReport) (cap : Nat) : Prop where
  findings : ∀ a b, (scan (a ++ b)).findings = (scan a).findings ++ (scan b).findings
  filesScanned : ∀ a b, (scan (a ++ b)).filesScanned = (scan a).filesScanned + (scan b).filesScanned
  filesSkipped : ∀ a b, (scan (a ++ b)).filesSkipped = (scan a).filesSkipped + (scan b).filesSkipped
  cappedFiles : ∀ a b, (scan (a ++ b)).cappedFiles = (scan a).cappedFiles ++ (scan b).cappedFiles
  counted : ∀ fs, (scan fs).filesScanned + (scan fs).filesSkipped = fs.length
  /-- With some files replaced by ones that cannot be read, their findings are gone and the others
  stay in their order. -/
  lost : ∀ xs : List (SourceFile × Option (String × Nat)),
    (scan (xs.map (·.1))).findings = xs.flatMap (fun x => (scan [x.1]).findings) ∧
      (scan (xs.map replaced)).findings =
        (xs.filter (·.2.isNone)).flatMap fun x => (scan [x.1]).findings
  bounded : ∀ f, (scan [f]).findings.length ≤ cap
  own : ∀ f, ∀ x ∈ (scan [f]).findings, x.file = f.path

theorem counted_scan (fs : List SourceFile) :
    (scan ds limits fs).filesScanned + (scan ds limits fs).filesSkipped = fs.length := by
  induction fs with
  | nil => rfl
  | cons f fs ih =>
    have hf := counted_scanFile ds limits f
    simp only [scan, ScanReport.join, List.length_cons]
    omega

theorem findings_scan_replaced (xs : List (SourceFile × Option (String × Nat))) :
    (scan ds limits (xs.map replaced)).findings =
      (xs.filter (·.2.isNone)).flatMap fun x => (scanFile ds limits x.1).findings := by
  rw [findings_scan, List.flatMap_map]
  induction xs with
  | nil => rfl
  | cons x xs ih =>
    rw [List.flatMap_cons, ih]
    obtain ⟨f, _ | ⟨path, size⟩⟩ := x
    · rfl
    · rw [replaced, scanFile_of_text?_eq_none ds limits rfl]
      rfl

/-- **Scanning goes file by file**, whatever the detectors and the limits are. -/
theorem scan_goes_fileByFile :
    GoesFileByFile (scan ds limits) limits.maxFindingsPerFile where
  findings a b := congrArg (·.findings) (scan_append ds limits a b)
  filesScanned a b := congrArg (·.filesScanned) (scan_append ds limits a b)
  filesSkipped a b := congrArg (·.filesSkipped) (scan_append ds limits a b)
  cappedFiles a b := congrArg (·.cappedFiles) (scan_append ds limits a b)
  counted := counted_scan ds limits
  lost xs := by
    simp only [scan_singleton]
    exact ⟨by rw [findings_scan, List.flatMap_map], findings_scan_replaced ds limits xs⟩
  bounded f := by
    rw [scan_singleton]
    exact (bounded_scanFile ds limits f).1
  own f := by
    rw [scan_singleton]
    exact (bounded_scanFile ds limits f).2

end ThreatModel
