import ThreatModel.Json.Basic
import ThreatModel.Number.Decimal
import ThreatModel.Text.Blank

/-!
# Risk factors

A risk is rated by eight factors for its likelihood and four for its technical impact, each a whole
number from 0 to 9. Factors from outside may be larger; `Likelihood.clamped` and `Impact.clamped`
bring them into range. `factorOf` reads a factor from an untrusted value.
-/

namespace ThreatModel

/-- The value of a factor that nothing usable is known about. -/
def neutralFactor : Nat := 5

/-- The largest value of a factor. -/
def maxFactor : Nat := 9

/-- Brings a factor into range. -/
def clampFactor (n : Nat) : Nat := min n maxFactor

theorem clampFactor_le (n : Nat) : clampFactor n ≤ maxFactor := Nat.min_le_right _ _

@[simp] theorem clampFactor_clampFactor (n : Nat) :
    clampFactor (clampFactor n) = clampFactor n := by
  simp [clampFactor]

/-- Threat-agent and vulnerability factors. -/
structure Likelihood where
  skillLevel : Nat
  motive : Nat
  opportunity : Nat
  size : Nat
  easeOfDiscovery : Nat
  easeOfExploit : Nat
  awareness : Nat
  intrusionDetection : Nat
  deriving DecidableEq, Repr, Inhabited

/-- Technical-impact factors. -/
structure Impact where
  lossOfConfidentiality : Nat
  lossOfIntegrity : Nat
  lossOfAvailability : Nat
  lossOfAccountability : Nat
  deriving DecidableEq, Repr, Inhabited

namespace Likelihood

/-- The factors in order. -/
def values (l : Likelihood) : List Nat :=
  [l.skillLevel, l.motive, l.opportunity, l.size, l.easeOfDiscovery, l.easeOfExploit, l.awareness,
    l.intrusionDetection]

/-- One value for every factor. -/
def uniform (n : Nat) : Likelihood := ⟨n, n, n, n, n, n, n, n⟩

/-- A function on every factor. -/
def map (f : Nat → Nat) (l : Likelihood) : Likelihood :=
  ⟨f l.skillLevel, f l.motive, f l.opportunity, f l.size, f l.easeOfDiscovery, f l.easeOfExploit,
    f l.awareness, f l.intrusionDetection⟩

/-- Every factor in range. -/
def clamped (l : Likelihood) : Likelihood := l.map clampFactor

/-- The factors that a list of exactly eight numbers holds. -/
def ofList? : List Nat → Option Likelihood
  | [a, b, c, d, e, f, g, h] => some ⟨a, b, c, d, e, f, g, h⟩
  | _ => none

@[simp] theorem values_map (f : Nat → Nat) (l : Likelihood) : (l.map f).values = l.values.map f :=
  rfl

@[simp] theorem length_values (l : Likelihood) : l.values.length = 8 := rfl

@[simp] theorem clamped_clamped (l : Likelihood) : l.clamped.clamped = l.clamped := by
  simp [clamped, map]

theorem le_of_mem_clamped {l : Likelihood} {n : Nat} (h : n ∈ l.clamped.values) :
    n ≤ maxFactor := by
  simp only [clamped, values_map, List.mem_map] at h
  obtain ⟨m, -, rfl⟩ := h
  exact clampFactor_le m

end Likelihood

namespace Impact

/-- The factors in order. -/
def values (i : Impact) : List Nat :=
  [i.lossOfConfidentiality, i.lossOfIntegrity, i.lossOfAvailability, i.lossOfAccountability]

/-- One value for every factor. -/
def uniform (n : Nat) : Impact := ⟨n, n, n, n⟩

/-- A function on every factor. -/
def map (f : Nat → Nat) (i : Impact) : Impact :=
  ⟨f i.lossOfConfidentiality, f i.lossOfIntegrity, f i.lossOfAvailability,
    f i.lossOfAccountability⟩

/-- Every factor in range. -/
def clamped (i : Impact) : Impact := i.map clampFactor

/-- The factors that a list of exactly four numbers holds. -/
def ofList? : List Nat → Option Impact
  | [a, b, c, d] => some ⟨a, b, c, d⟩
  | _ => none

@[simp] theorem values_map (f : Nat → Nat) (i : Impact) : (i.map f).values = i.values.map f := rfl

@[simp] theorem length_values (i : Impact) : i.values.length = 4 := rfl

@[simp] theorem clamped_clamped (i : Impact) : i.clamped.clamped = i.clamped := by
  simp [clamped, map]

theorem le_of_mem_clamped {i : Impact} {n : Nat} (h : n ∈ i.clamped.values) : n ≤ maxFactor := by
  simp only [clamped, values_map, List.mem_map] at h
  obtain ⟨m, -, rfl⟩ := h
  exact clampFactor_le m

end Impact

/-! ### Untrusted factors -/

/-- The factor nearest to a number, halves away from zero; numbers outside the range give its
nearer end, and what is not finite gives the neutral factor. -/
def nearestFactor : Binary → Nat
  | .finite negative m e =>
    if negative then 0
    else clampFactor (Rounding.halfAway (m * Nat.pow 2 e.toNat) (Nat.pow 2 (-e).toNat))
  | _ => neutralFactor

/-- The factor in an untrusted value: a number, or a string that holds one. -/
def factorOf : Option Json → Nat
  | some (.number n) => nearestFactor n.toBinary
  | some (.string s) =>
    match Binary.ofText? (Text.trim s.toList) with
    | some x => nearestFactor x
    | none => neutralFactor
  | _ => neutralFactor

/-- The member under the first name; under the second name if there is none. -/
def spelled (x : Json) (first second : String) : Option Json :=
  match x.field? first with
  | some y => some y
  | none => x.field? second

/-- The likelihood factors in an untrusted object. -/
def Likelihood.ofUntrusted (x : Json) : Likelihood where
  skillLevel := factorOf (spelled x "skill_level" "skillLevel")
  motive := factorOf (x.field? "motive")
  opportunity := factorOf (x.field? "opportunity")
  size := factorOf (x.field? "size")
  easeOfDiscovery := factorOf (spelled x "ease_of_discovery" "easeOfDiscovery")
  easeOfExploit := factorOf (spelled x "ease_of_exploit" "easeOfExploit")
  awareness := factorOf (x.field? "awareness")
  intrusionDetection := factorOf (spelled x "intrusion_detection" "intrusionDetection")

/-- The impact factors in an untrusted object. -/
def Impact.ofUntrusted (x : Json) : Impact where
  lossOfConfidentiality := factorOf (spelled x "loss_of_confidentiality" "lossOfConfidentiality")
  lossOfIntegrity := factorOf (spelled x "loss_of_integrity" "lossOfIntegrity")
  lossOfAvailability := factorOf (spelled x "loss_of_availability" "lossOfAvailability")
  lossOfAccountability := factorOf (spelled x "loss_of_accountability" "lossOfAccountability")

theorem nearestFactor_le (x : Binary) : nearestFactor x ≤ maxFactor := by
  unfold nearestFactor
  split
  · split
    · exact Nat.zero_le _
    · exact clampFactor_le _
  · decide

theorem factorOf_le (x : Option Json) : factorOf x ≤ maxFactor := by
  unfold factorOf
  split
  · exact nearestFactor_le _
  · split
    · exact nearestFactor_le _
    · decide
  · decide

end ThreatModel
