import Mathlib
import ThreatModel.Proofs.Source.Listing

/-!
# Walks within limits

A walk takes the first files that fit, in their order, and stops at the first one that finds no
room; files that are too large take none (`cutsTo_bounded`). Together with the files that it finds
this says what a collection is: all sources below a directory, cut down to the limits
(`collect_cuts_sources`).
-/

namespace ThreatModel

/-- Whether a file is not too large. -/
def fits (maxBytes : Nat) (f : SourceFile) : Bool := decide (f.size ≤ maxBytes)

/-- A set is made of some files within the limits. -/
structure CutsTo (maxBytes room : Nat) (fs : List SourceFile) (s : SourceSet) : Prop where
  files : s.files = (fs.filter (fits maxBytes)).take room
  truncated : s.truncated = true ↔ room < fs.countP (fits maxBytes)
  /-- Files that are too large count if they stand in front of the first one that finds no room. -/
  skippedBefore : room < fs.countP (fits maxBytes) → ∃ front f back,
    fs = front ++ f :: back ∧ fits maxBytes f ∧ front.countP (fits maxBytes) = room ∧
      s.skippedOversize = front.countP fun f => !fits maxBytes f
  /-- They all count if every file finds room. -/
  skipped : fs.countP (fits maxBytes) ≤ room →
    s.skippedOversize = fs.countP fun f => !fits maxBytes f

variable {maxBytes room : Nat} {f : SourceFile} {fs : List SourceFile} {s : SourceSet}

theorem CutsTo.nil : CutsTo maxBytes room [] ⟨[], false, 0⟩ where
  files := List.take_nil.symm
  truncated := by simp
  skippedBefore h := absurd h (Nat.not_lt_zero room)
  skipped _ := rfl

/-- A file that is too large is counted. -/
theorem CutsTo.cons_large (hf : fits maxBytes f = false) (h : CutsTo maxBytes room fs s) :
    CutsTo maxBytes room (f :: fs) { s with skippedOversize := s.skippedOversize + 1 } where
  files := by rw [List.filter_cons_of_neg (by simp [hf]), h.files]
  truncated := by rw [List.countP_cons_of_neg (by simp [hf]), h.truncated]
  skippedBefore hroom := by
    rw [List.countP_cons_of_neg (by simp [hf])] at hroom
    obtain ⟨front, g, back, rfl, hg, hfull, hcount⟩ := h.skippedBefore hroom
    refine ⟨f :: front, g, back, rfl, hg, ?_, ?_⟩
    · rw [List.countP_cons_of_neg (by simp [hf]), hfull]
    · rw [List.countP_cons_of_pos (by simp [hf]), hcount]
  skipped hroom := by
    rw [List.countP_cons_of_neg (by simp [hf])] at hroom
    rw [List.countP_cons_of_pos (by simp [hf]), h.skipped hroom]

/-- The first file that finds no room ends a walk. -/
theorem CutsTo.cons_full (hf : fits maxBytes f = true) :
    CutsTo maxBytes 0 (f :: fs) ⟨[], true, 0⟩ where
  files := rfl
  truncated := by rw [List.countP_cons_of_pos hf]; simp
  skippedBefore _ := ⟨[], f, fs, rfl, hf, rfl, rfl⟩
  skipped hroom := by
    rw [List.countP_cons_of_pos hf] at hroom
    exact absurd hroom (Nat.not_succ_le_zero _)

/-- A file that finds room is taken. -/
theorem CutsTo.cons_taken (hf : fits maxBytes f = true) (h : CutsTo maxBytes room fs s) :
    CutsTo maxBytes (room + 1) (f :: fs) { s with files := f :: s.files } where
  files := by rw [List.filter_cons_of_pos hf, List.take_succ_cons, h.files]
  truncated := by rw [List.countP_cons_of_pos hf, Nat.add_lt_add_iff_right, h.truncated]
  skippedBefore hroom := by
    rw [List.countP_cons_of_pos hf, Nat.add_lt_add_iff_right] at hroom
    obtain ⟨front, g, back, rfl, hg, hfull, hcount⟩ := h.skippedBefore hroom
    refine ⟨f :: front, g, back, rfl, hg, ?_, ?_⟩
    · rw [List.countP_cons_of_pos hf, hfull]
    · rw [List.countP_cons_of_neg (by simp [hf]), hcount]
  skipped hroom := by
    rw [List.countP_cons_of_pos hf, Nat.add_le_add_iff_right] at hroom
    rw [List.countP_cons_of_neg (by simp [hf]), h.skipped hroom]

/-- A walk through some files keeps what is within the limits. -/
theorem cutsTo_bounded (maxBytes room : Nat) (fs : List SourceFile) :
    CutsTo maxBytes room fs (bounded maxBytes room fs) := by
  induction fs generalizing room with
  | nil =>
    rw [bounded.eq_def]
    exact .nil
  | cons f fs ih =>
    rw [bounded.eq_def]
    by_cases hsize : maxBytes < f.size
    · have hf : fits maxBytes f = false := decide_eq_false (Nat.not_le.2 hsize)
      simp only [if_pos hsize]
      exact (ih room).cons_large hf
    · have hf : fits maxBytes f = true := decide_eq_true (Nat.not_lt.1 hsize)
      simp only [if_neg hsize]
      cases room with
      | zero => exact .cons_full hf
      | succ room => exact (ih room).cons_taken hf

/-- **A collection is made of all sources below a directory, within the limits.** -/
theorem collect_cuts_sources (limits : Limits) (name : String) (es : List (String × Tree)) :
    ∃ s, collect limits name (some (.directory es)) = .ok s ∧
      CutsTo limits.maxFileBytes limits.maxFiles (Tree.directory es).sources s := by
  refine ⟨_, rfl, ?_⟩
  rw [← eligible_directory]
  exact cutsTo_bounded limits.maxFileBytes limits.maxFiles _

end ThreatModel
