import ThreatModel.Proofs.Text.Classes
import ThreatModel.Text.Search
import ThreatModel.Threat.Draft

/-!
# Well-formed drafts

What holds of every draft of a threat, wherever it comes from (`Draft.WellFormed`): no text of it is
blank, its factors are in range, and its entry in a list of known vulnerabilities, if there is one,
names an entry.

A text that is put together from parts is not blank as soon as one of them is not
(`Text.nonblank_append_iff`).
-/

namespace ThreatModel

namespace Text

/-- A text with something else than blanks. -/
def Nonblank (s : String) : Prop := isBlankString s = false

theorem nonblank_iff {s : String} : Nonblank s ↔ ∃ c ∈ s.toList, isBlank c = false := by
  simp [Nonblank, isBlankString]

theorem nonblank_append_iff {s t : String} : Nonblank (s ++ t) ↔ Nonblank s ∨ Nonblank t := by
  simp only [nonblank_iff, String.toList_append, List.mem_append, or_and_right, exists_or]

namespace Nonblank

variable {s t : String} {c : Char}

theorem of_mem {cs : List Char} (hc : c ∈ cs) (h : isBlank c = false) :
    Nonblank (String.ofList cs) :=
  nonblank_iff.2 ⟨c, by rwa [String.toList_ofList], h⟩

/-- The first character of a fixed text is enough, so that the rest of it is never looked at. -/
theorem cons (h : isBlank c = false) (r : List Char) : Nonblank (String.ofList (c :: r)) :=
  of_mem List.mem_cons_self h

theorem append_left (h : Nonblank s) (t : String) : Nonblank (s ++ t) :=
  nonblank_append_iff.2 (.inl h)

theorem append_right (h : Nonblank t) (s : String) : Nonblank (s ++ t) :=
  nonblank_append_iff.2 (.inr h)

end Nonblank

end Text

open Text (Nonblank)

/-- A mitigation with something in it. -/
def Mitigation.WellFormed : Mitigation → Prop
  | prose text => Nonblank text
  | code _ before after => Nonblank before ∧ Nonblank after

/-- A text that may name an entry: it is not blank, and it is none of the words, in any case, that
say that there is no entry. -/
def NamesEntry (s : String) : Prop :=
  Nonblank s ∧ Text.asciiLower s ∉ ["n/a", "na", "none", "null", "-"]

/-- A draft in which no text is blank and no factor is out of range. -/
structure Draft.WellFormed (d : Draft) : Prop where
  title : Nonblank d.title
  source : Nonblank d.source
  prerequisites : Nonblank d.prerequisites
  action : Nonblank d.action
  consequence : Nonblank d.consequence
  boundary : Nonblank d.boundary
  likelihood : ∀ n ∈ d.likelihood.values, n ≤ 9
  impact : ∀ n ∈ d.impact.values, n ≤ 9
  assets : ∀ s ∈ d.assets, Nonblank s
  assumptions : ∀ s ∈ d.assumptions, Nonblank s
  mitigations : ∀ m ∈ d.mitigations, m.WellFormed
  cve : ∀ s, d.cve = some s → NamesEntry s

end ThreatModel
