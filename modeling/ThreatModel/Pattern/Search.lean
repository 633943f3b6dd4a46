import ThreatModel.Pattern.Basic

/-!
# Searching with patterns

The first match in a text, all matches from left to right that do not overlap, and replacement of
all of them.
-/

namespace ThreatModel

open Text (Cursor)

/-- A match: the places in front of it and behind it. -/
structure Match where
  first : Cursor
  last : Cursor

namespace Match

/-- The matched text. -/
def text (m : Match) : List Char := m.first.upTo m.last

/-- The offsets in bytes. -/
def span (m : Match) : Nat × Nat := (m.first.offset, m.last.offset)

end Match

namespace Pattern

variable {α : Type}

/-- The first place from which a search succeeds, with what it finds there. -/
def firstFrom (f : Cursor → Option α) (k : Cursor) : Option (Cursor × α) :=
  match f k with
  | some x => some (k, x)
  | none =>
    match _h : k.after with
    | [] => none
    | c :: r => firstFrom f (k.push c r)
termination_by k.after.length
decreasing_by simp [Cursor.push, _h]

/-- The first match behind a place. -/
def find? (p : Pattern) (k : Cursor) : Option Match :=
  (firstFrom p.end? k).map fun (b, e) => ⟨b, e⟩

/-- Whether a pattern matches somewhere in a text. -/
def occursIn (p : Pattern) (cs : List Char) : Bool := (p.find? (.start cs)).isSome

/-- Whether a pattern matches somewhere in a string. -/
def occursInString (p : Pattern) (s : String) : Bool := p.occursIn s.toList

/-- The matches behind a place from left to right. None begins in front of offset `resume`, where
the match before ended, and an empty one does not begin there (`fresh` says that there is no match
before). -/
def matchesFrom (p : Pattern) (fresh : Bool) (resume : Nat) (k : Cursor) : List Match :=
  -- Places inside the match before are passed over, but the search goes through them.
  let found := if k.offset < resume then none else
    (p.end? k).filter fun e => fresh || e.offset != resume
  match found with
  | some e =>
    ⟨k, e⟩ :: (match _h : k.after with
      | [] => []
      | c :: r => matchesFrom p false e.offset (k.push c r))
  | none =>
    match _h : k.after with
    | [] => []
    | c :: r => matchesFrom p fresh resume (k.push c r)
termination_by k.after.length
decreasing_by all_goals simp [Cursor.push, _h]

/-- All matches in a text, from left to right. -/
def occurrences (p : Pattern) (cs : List Char) : List Match := p.matchesFrom true 0 (.start cs)

/-- A text with a new text in place of each match. The matches are those behind offset `done`. -/
def spliced (new : List Char) (done : Cursor) : List Match → List Char
  | [] => done.after
  | m :: ms => done.upTo m.first ++ new ++ spliced new m.last ms

/-- A text with all matches replaced. -/
def replaceAll (p : Pattern) (new cs : List Char) : List Char :=
  spliced new (.start cs) (p.occurrences cs)

end Pattern

end ThreatModel
