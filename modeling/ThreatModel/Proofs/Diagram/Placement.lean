import Mathlib
import ThreatModel.Diagram.Flowchart

/-!
# Where a component stands

A component stands in the smallest boundary that lists its name, of several in the first, and
outside of all boundaries if none does (`encloses_boundaryOf?`).
-/

namespace ThreatModel.Diagram

/-! ### The smallest boundary -/

/-- A boundary is smaller than another, or as small and not behind it. -/
def Beats (x y : TrustBoundary × Nat) : Prop :=
  x.1.components.length < y.1.components.length ∨
    x.1.components.length = y.1.components.length ∧ x.2 ≤ y.2

theorem Beats.refl (x : TrustBoundary × Nat) : Beats x x := .inr ⟨rfl, le_rfl⟩

theorem Beats.trans {x y z : TrustBoundary × Nat} (hxy : Beats x y) (hyz : Beats y z) :
    Beats x z := by
  unfold Beats at *
  omega

/-- The smaller of two numbered boundaries, the first if they are equally small. -/
def smaller (best : Option (TrustBoundary × Nat)) (x : TrustBoundary × Nat) :
    Option (TrustBoundary × Nat) :=
  match best with
  | none => some x
  | some y => if x.1.components.length < y.1.components.length then some x else some y

theorem exists_smaller_eq {x y : TrustBoundary × Nat} (h : x.2 < y.2) :
    ∃ z, smaller (some x) y = some z ∧ (z = x ∨ z = y) ∧ Beats z x ∧ Beats z y := by
  by_cases hlt : y.1.components.length < x.1.components.length
  · exact ⟨y, if_pos hlt, .inr rfl, .inl hlt, .refl y⟩
  · refine ⟨x, if_neg hlt, .inl rfl, .refl x, ?_⟩
    unfold Beats
    omega

theorem exists_foldl_smaller_eq {x : TrustBoundary × Nat} {xs : List (TrustBoundary × Nat)}
    (h : (x :: xs).Pairwise fun y z => y.2 < z.2) :
    ∃ y ∈ x :: xs, xs.foldl smaller (some x) = some y ∧ ∀ z ∈ x :: xs, Beats y z := by
  induction xs generalizing x with
  | nil => exact ⟨x, List.mem_cons_self, rfl, by simp [Beats.refl]⟩
  | cons y ys ih =>
    simp only [List.pairwise_cons, List.forall_mem_cons] at h
    obtain ⟨⟨hxy, hx⟩, hy, hys⟩ := h
    obtain ⟨z, hz, hmem, hzx, hzy⟩ := exists_smaller_eq hxy
    have hsorted : (z :: ys).Pairwise fun v w => v.2 < w.2 := by
      rcases hmem with rfl | rfl
      · exact List.pairwise_cons.2 ⟨hx, hys⟩
      · exact List.pairwise_cons.2 ⟨hy, hys⟩
    obtain ⟨w, hw, hfold, hbeats⟩ := ih hsorted
    have hwz : Beats w z := hbeats z List.mem_cons_self
    refine ⟨w, ?_, by rw [List.foldl_cons, hz, hfold], ?_⟩
    · grind
    · simp only [List.forall_mem_cons]
      exact ⟨hwz.trans hzx, hwz.trans hzy, fun v hv => hbeats v (List.mem_cons_of_mem z hv)⟩

theorem Beats.antisymm {t u : TrustBoundary} {i j : Nat} (h : Beats (t, i) (u, j))
    (h' : Beats (u, j) (t, i)) : i = j := by
  unfold Beats at *
  dsimp only at *
  omega

/-! ### Components -/

variable (a : Analysis)

/-- The place of the components of a name: the smallest boundary that lists the name, of several
the first, or no boundary if none lists it. -/
def Encloses (boundary : Option Nat) (name : String) : Prop :=
  match boundary with
  | none => ∀ t ∈ a.trustBoundaries, name ∉ t.components
  | some i => ∃ t, a.trustBoundaries[i]? = some t ∧ name ∈ t.components ∧
      ∀ j u, a.trustBoundaries[j]? = some u → name ∈ u.components → Beats (t, i) (u, j)

/-- **A component stands in the smallest boundary that lists it.** -/
theorem encloses_boundaryOf? (name : String) : Encloses a (boundaryOf? a name) name := by
  let named := a.trustBoundaries.zipIdx.filter fun x => x.1.components.contains name
  have hfold : boundaryOf? a name = (named.foldl smaller none).map (·.2) := rfl
  have hmem {t : TrustBoundary} {i : Nat} :
      (t, i) ∈ named ↔ a.trustBoundaries[i]? = some t ∧ name ∈ t.components := by
    simp [named, List.mem_zipIdx_iff_getElem?]
  have hsorted : named.Pairwise fun y z => y.2 < z.2 := by
    refine List.Pairwise.filter _ (List.pairwise_map.1 ?_)
    rw [List.zipIdx_map_snd]
    exact List.pairwise_lt_range'
  cases hnamed : named with
  | nil =>
    rw [hfold, hnamed]
    intro t ht hname
    obtain ⟨i, hi⟩ := List.mem_iff_getElem?.1 ht
    exact List.not_mem_nil (hnamed ▸ hmem.2 ⟨hi, hname⟩)
  | cons x xs =>
    obtain ⟨⟨t, i⟩, ht, hleast, hbeats⟩ := exists_foldl_smaller_eq (hnamed ▸ hsorted)
    rw [← hnamed] at ht hbeats
    rw [hfold, hnamed, List.foldl_cons]
    obtain ⟨hi, hname⟩ := hmem.1 ht
    have hbest : (xs.foldl smaller (smaller none x)).map (·.2) = some i :=
      congrArg (Option.map (·.2)) hleast
    rw [hbest]
    exact ⟨t, hi, hname, fun j u hu hlists => hbeats (u, j) (hmem.2 ⟨hu, hlists⟩)⟩

variable {a}

/-- A component stands in no other boundary. -/
theorem boundaryOf?_eq_some_iff {name : String} {i : Nat} :
    boundaryOf? a name = some i ↔ Encloses a (some i) name := by
  have hplace := encloses_boundaryOf? a name
  constructor
  · intro h
    rwa [h] at hplace
  · rintro ⟨t, ht, hname, hbeats⟩
    cases h : boundaryOf? a name with
    | none =>
      rw [h] at hplace
      exact absurd hname (hplace t (List.mem_of_getElem? ht))
    | some j =>
      rw [h] at hplace
      obtain ⟨u, hu, hname', hbeats'⟩ := hplace
      rw [(hbeats' i t ht hname).antisymm (hbeats j u hu hname')]

end ThreatModel.Diagram
