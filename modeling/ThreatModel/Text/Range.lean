/-!
# Ranges of characters

Sorted tables of code-point ranges, and membership by bisection. Searching finds nothing that the
table does not hold (`mem_of_holds`).
-/

namespace ThreatModel.Text

/-- A sorted table of ranges, each with its first and last code point. -/
abbrev RangeTable := Array (Nat × Nat)

namespace RangeTable

/-- Whether one of the ranges from place `lo` up to place `hi` holds the code point. -/
def holdsBetween (t : RangeTable) (n lo hi : Nat) : Bool :=
  if _h : lo < hi then
    let mid := (lo + hi) / 2
    match t[mid]? with
    | none => false
    | some (a, b) =>
      if n < a then holdsBetween t n lo mid
      else if b < n then holdsBetween t n (mid + 1) hi
      else true
  else false
termination_by hi - lo

/-- Whether one of the ranges holds the code point. -/
def holds (t : RangeTable) (n : Nat) : Bool := t.holdsBetween n 0 t.size

theorem mem_of_holdsBetween {t : RangeTable} {n lo hi : Nat} (h : t.holdsBetween n lo hi = true) :
    ∃ r ∈ t, r.1 ≤ n ∧ n ≤ r.2 := by
  fun_induction holdsBetween t n lo hi with
  | case1 => cases h
  | case2 lo hi hlt mid a b hm hn ih => exact ih h
  | case3 lo hi hlt mid a b hm hn hb ih => exact ih h
  | case4 lo hi hlt mid a b hm hn hb =>
    exact ⟨(a, b), Array.mem_of_getElem? hm, Nat.le_of_not_lt hn, Nat.le_of_not_lt hb⟩
  | case5 => cases h

theorem mem_of_holds {t : RangeTable} {n : Nat} (h : t.holds n = true) :
    ∃ r ∈ t, r.1 ≤ n ∧ n ≤ r.2 :=
  mem_of_holdsBetween h

end RangeTable

end ThreatModel.Text
