import ThreatModel.Text.Blank
import ThreatModel.Text.Cursor
import ThreatModel.Text.Word

/-!
# Patterns

A `Pattern` says which stretches of a text match. Matching prefers: of two alternatives the first,
and of a run of characters the longest that lets the rest match. `Pattern.run` matches at a cursor
and hands the place behind each possible match, in the order of preference, to what follows; the
first that succeeds decides.
-/

namespace ThreatModel

open Text (Cursor)

/-- A set of characters. -/
abbrev CharSet := Char → Bool

/-- A pattern. -/
inductive Pattern where
  /-- The empty stretch. -/
  | empty
  /-- One character of a set. -/
  | one (set : CharSet)
  /-- A run of characters of a set, as long as possible. -/
  | many (set : CharSet)
  /-- One pattern and then another. -/
  | seq (first second : Pattern)
  /-- One pattern, or else another. -/
  | alt (first second : Pattern)
  /-- A place where a word begins or ends. -/
  | wordEdge
  /-- The front of a line. -/
  | lineStart
  /-- The front of the text. -/
  | textStart
  /-- The end of the text. -/
  | textEnd

namespace CharSet

/-- The characters of a string. -/
def among (s : String) : CharSet := fun c => s.toList.contains c

/-- All characters but those of a string. -/
def except (s : String) : CharSet := fun c => !s.toList.contains c

/-- The characters of either set. -/
def union (s t : CharSet) : CharSet := fun c => s c || t c

/-- The set with every letter of ASCII in it in both cases. The Kelvin sign is a `k` and the long
`s` an `s`. -/
def anyCase (s : CharSet) : CharSet := fun c =>
  s c || s c.toLower || s c.toUpper ||
    (c == '\u212a' && (s 'k' || s 'K')) || (c == '\u017f' && (s 's' || s 'S'))

end CharSet

namespace Pattern

/-! ### Combinations -/

/-- Patterns one after another. -/
def seqs : List Pattern → Pattern
  | [] => empty
  | [p] => p
  | p :: ps => seq p (seqs ps)

/-- The first of some patterns that matches. -/
def choice : List Pattern → Pattern
  | [] => one fun _ => false
  | [p] => p
  | p :: ps => alt p (choice ps)

/-- A pattern or nothing. -/
def opt (p : Pattern) : Pattern := alt p empty

/-- Exactly so many characters of a set. -/
def exactly : Nat → CharSet → Pattern
  | 0, _ => empty
  | n + 1, s => seq (one s) (exactly n s)

/-- At least so many characters of a set, as many as possible. -/
def atLeast : Nat → CharSet → Pattern
  | 0, s => many s
  | n + 1, s => seq (one s) (atLeast n s)

/-- A character. -/
def char (c : Char) : Pattern := one (· == c)

/-- A fixed text. -/
def lit (s : String) : Pattern := seqs (s.toList.map char)

/-- A fixed text in any case. -/
def litAnyCase (s : String) : Pattern := seqs (s.toList.map fun c => one (CharSet.anyCase (· == c)))

/-- One of some fixed texts. -/
def lits (ss : List String) : Pattern := choice (ss.map lit)

/-- One of some fixed texts in any case. -/
def litsAnyCase (ss : List String) : Pattern := choice (ss.map litAnyCase)

/-- One of some characters. -/
def among (s : String) : Pattern := one (CharSet.among s)

/-- Blanks, if any. -/
def blanks : Pattern := many Text.isBlank

/-- At least one blank. -/
def someBlanks : Pattern := atLeast 1 Text.isBlank

/-- A quote of either kind. -/
def quote : Pattern := among "\"'"

/-- A quote of either kind, or nothing. -/
def optQuote : Pattern := opt quote

/-! ### Matching -/

/-- Whether a word begins or ends at a place. -/
def atWordEdge (k : Cursor) : Bool :=
  (k.before.head?.any Text.isWord) != (k.after.head?.any Text.isWord)

/-- Whether a line begins at a place. -/
def atLineStart (k : Cursor) : Bool := k.before.head?.all (· == '\n')

/-- The place behind the characters of a set, and how many there are. -/
def skipRun (s : CharSet) (n : Nat) (k : Cursor) : Nat × Cursor :=
  match _h : k.after with
  | [] => (n, k)
  | c :: r => if s c then skipRun s (n + 1) (k.push c r) else (n, k)
termination_by k.after.length
decreasing_by simp [Cursor.push, _h]

variable {β : Type}

/-- Tries a place and up to `n` places in front of it, the last one first. -/
def retreat (cont : Cursor → Option β) : Nat → Cursor → Option β
  | 0, k => cont k
  | n + 1, k =>
    match cont k with
    | some b => some b
    | none => retreat cont n k.back

/-- Matches at a place; `cont` is what follows. -/
def run : Pattern → Cursor → (Cursor → Option β) → Option β
  | empty, k, cont => cont k
  | one s, k, cont =>
    match k.after with
    | [] => none
    | c :: r => if s c then cont (k.push c r) else none
  | many s, k, cont =>
    -- All of the run first, then one character less at a time.
    let (n, e) := skipRun s 0 k
    retreat cont n e
  | seq p q, k, cont => run p k fun k' => run q k' cont
  | alt p q, k, cont =>
    match run p k cont with
    | some b => some b
    | none => run q k cont
  | wordEdge, k, cont => if atWordEdge k then cont k else none
  | lineStart, k, cont => if atLineStart k then cont k else none
  | textStart, k, cont => if k.before.isEmpty then cont k else none
  | textEnd, k, cont => if k.after.isEmpty then cont k else none

/-- The place behind the match at a place. -/
def end? (p : Pattern) (k : Cursor) : Option Cursor := p.run k some

/-- Matches patterns one after another: the places behind each of them. -/
def runEach : List Pattern → Cursor → Option (List Cursor)
  | [], _ => some []
  | p :: ps, k => p.run k fun k' => (runEach ps k').map (k' :: ·)

@[simp] theorem run_empty (k : Cursor) (cont : Cursor → Option β) : run empty k cont = cont k := rfl

@[simp] theorem run_seq (p q : Pattern) (k : Cursor) (cont : Cursor → Option β) :
    run (seq p q) k cont = run p k fun k' => run q k' cont := rfl

theorem run_alt_of_some {p q : Pattern} {k : Cursor} {cont : Cursor → Option β} {b : β}
    (h : run p k cont = some b) : run (alt p q) k cont = some b := by
  simp [run, h]

theorem run_alt_of_none {p q : Pattern} {k : Cursor} {cont : Cursor → Option β}
    (h : run p k cont = none) : run (alt p q) k cont = run q k cont := by
  simp [run, h]

end Pattern

end ThreatModel
