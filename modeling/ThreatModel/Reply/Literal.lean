/-!
# String literals in running text

Where a scan of JSON text stands with regard to string literals. Brackets and fences count only
outside of them.
-/

namespace ThreatModel.Reply

/-- A place with regard to string literals. -/
inductive Place where
  /-- Not in a literal. -/
  | outside
  /-- In a literal. -/
  | inside
  /-- In a literal, behind a backslash. -/
  | escaped
  deriving DecidableEq, Repr, Inhabited

/-- The place behind one more character. -/
def Place.step : Place → Char → Place
  | outside, c => if c = '"' then inside else outside
  | inside, c => if c = '\\' then escaped else if c = '"' then outside else inside
  | escaped, _ => inside

/-- The place behind a text. -/
def Place.after (p : Place) (cs : List Char) : Place := cs.foldl step p

@[simp] theorem Place.after_nil (p : Place) : p.after [] = p := rfl

@[simp] theorem Place.after_cons (p : Place) (c : Char) (cs : List Char) :
    p.after (c :: cs) = (p.step c).after cs := rfl

theorem Place.after_append (p : Place) (a b : List Char) :
    p.after (a ++ b) = (p.after a).after b := by
  simp [after]

end ThreatModel.Reply
