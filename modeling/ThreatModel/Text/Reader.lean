/-!
# Readers

A reader takes something from the front of a text and returns what is left of the text, with the
proof that it is shorter, so that reading again and again comes to an end.
-/

namespace ThreatModel.Text

/-- What is left of a text after reading something from its front. -/
abbrev Rest (cs : List Char) := { rest : List Char // rest.length < cs.length }

/-- A reader takes something from the front of a text. -/
abbrev Reader (α : Type) := (cs : List Char) → Option (α × Rest cs)

/-- What is left of `r` is shorter than any text that `r` is shorter than. -/
def Rest.within {cs r : List Char} (h : r.length ≤ cs.length) (s : Rest r) : Rest cs :=
  ⟨s.1, Nat.lt_of_lt_of_le s.2 h⟩

/-- What is left of a text that is itself shorter. -/
def Rest.ofLt {cs r : List Char} (h : r.length < cs.length) (s : Rest r) : Rest cs :=
  s.within (Nat.le_of_lt h)

/-- What follows the first character. -/
def Rest.tail {c : Char} {r : List Char} : Rest (c :: r) := ⟨r, Nat.lt_succ_self r.length⟩

/-- What is left behind one more character. -/
def Rest.behind {c : Char} {r : List Char} (s : Rest r) : Rest (c :: r) :=
  s.within (Nat.le_succ r.length)

/-- What is left of a text after reading something from its front, or nothing. -/
abbrev Left (cs : List Char) := { rest : List Char // rest.length ≤ cs.length }

/-- All of a text. -/
def Left.all (cs : List Char) : Left cs := ⟨cs, Nat.le_refl cs.length⟩

/-- What is left behind one more character. -/
def Left.behind {c : Char} {r : List Char} (s : Left r) : Left (c :: r) :=
  ⟨s.1, Nat.le_succ_of_le s.2⟩

/-- What is left behind a character that was read. -/
def Left.rest {c : Char} {r : List Char} (s : Left r) : Rest (c :: r) :=
  ⟨s.1, Nat.lt_succ_of_le s.2⟩

/-- What is left of what is left. -/
def Left.within {cs r : List Char} (h : r.length ≤ cs.length) (s : Left r) : Left cs :=
  ⟨s.1, Nat.le_trans s.2 h⟩

@[simp] theorem Rest.val_within {cs r : List Char} (h : r.length ≤ cs.length) (s : Rest r) :
    (s.within h).1 = s.1 := rfl

@[simp] theorem Rest.val_ofLt {cs r : List Char} (h : r.length < cs.length) (s : Rest r) :
    (s.ofLt h).1 = s.1 := rfl

@[simp] theorem Rest.val_tail {c : Char} {r : List Char} : (Rest.tail : Rest (c :: r)).1 = r := rfl

@[simp] theorem Rest.val_behind {c : Char} {r : List Char} (s : Rest r) :
    (s.behind : Rest (c :: r)).1 = s.1 := rfl

@[simp] theorem Left.val_all (cs : List Char) : (Left.all cs).1 = cs := rfl

@[simp] theorem Left.val_behind {c : Char} {r : List Char} (s : Left r) :
    (s.behind : Left (c :: r)).1 = s.1 := rfl

@[simp] theorem Left.val_rest {c : Char} {r : List Char} (s : Left r) :
    (s.rest : Rest (c :: r)).1 = s.1 := rfl

@[simp] theorem Left.val_within {cs r : List Char} (h : r.length ≤ cs.length) (s : Left r) :
    (s.within h).1 = s.1 := rfl

end ThreatModel.Text
