/-!
# Words

Arithmetic that stops at the largest 64-bit word instead of going beyond it.
-/

namespace ThreatModel

/-- The largest 64-bit word. -/
def maxWord : Nat := Nat.pow 2 64 - 1

/-- The largest 32-bit word. -/
def maxHalfWord : Nat := Nat.pow 2 32 - 1

/-- A product, or the largest word if the product is larger. -/
def saturatingMul (a b : Nat) : Nat := min (a * b) maxWord

theorem saturatingMul_le (a b : Nat) : saturatingMul a b ≤ maxWord := Nat.min_le_right _ _

/-- Below a bound that is a word, saturation does not show. -/
theorem min_saturatingMul {a b bound : Nat} (h : bound ≤ maxWord) :
    min (saturatingMul a b) bound = min (a * b) bound := by
  unfold saturatingMul
  omega

end ThreatModel
