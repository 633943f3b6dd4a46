/-!
# Severity

How serious a finding or a threat is, from `low` to `critical`.
-/

namespace ThreatModel

/-- How serious a finding or a threat is. -/
inductive Severity where
  | low
  | medium
  | high
  | critical
  deriving DecidableEq, Repr, Inhabited

namespace Severity

/-- The place in the order, `low` first. -/
def rank : Severity → Nat
  | low => 0
  | medium => 1
  | high => 2
  | critical => 3

/-- The name. -/
def name : Severity → String
  | low => "Low"
  | medium => "Medium"
  | high => "High"
  | critical => "Critical"

/-- All severities, the most serious first. -/
def all : List Severity := [critical, high, medium, low]

/-- The severity of this name. -/
def ofName? (s : String) : Option Severity := all.find? fun x => x.name == s

@[simp] theorem ofName?_name (s : Severity) : ofName? s.name = some s := by cases s <;> decide

theorem rank_inj {a b : Severity} (h : a.rank = b.rank) : a = b := by
  cases a <;> cases b <;> simp_all [rank]

theorem rank_inj_iff {a b : Severity} : a.rank = b.rank ↔ a = b := by
  constructor
  · exact rank_inj
  · intro h
    rw [h]

theorem mem_all (s : Severity) : s ∈ all := by
  cases s <;> simp [all]

end Severity

end ThreatModel
