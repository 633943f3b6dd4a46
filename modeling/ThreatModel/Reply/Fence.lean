import ThreatModel.Reply.Array

/-!
# Fenced blocks in a reply

A reply may wrap its array in a block between two fences of three backticks, the first with an info
word on its line. `unfenced` gives the text inside the block.
-/

namespace ThreatModel.Reply

/-- The mark that opens and closes a block. -/
def fence : List Char := ['`', '`', '`']

/-- Whether a line holds an info word or nothing. -/
def isInfo (line : List Char) : Bool :=
  (Text.trim line).all fun c => c.isAlphanum || c == '-' || c == '+' || c == '_' || c == '.'

/-- The text in front of the first fence outside of string literals. -/
def beforeFence? (p : Place) : List Char → Option (List Char)
  | [] => none
  | c :: r =>
    if p = .outside && fence.isPrefixOf (c :: r) then some []
    else (beforeFence? (p.step c) r).map (c :: ·)

/-- The text behind an opening fence without its info word. -/
def afterInfo (cs : List Char) : List Char :=
  match Text.splitFirst? '\n' cs with
  | some (line, r) => if isInfo line then r else cs
  | none => cs

/-- The text inside the block that wraps the array, or the whole text if the array starts in front
of every fence. A block that is not closed runs to the end. -/
def unfenced (text : List Char) : List Char :=
  let cs := Text.trim text
  match Text.splitAt? fence cs with
  | none => cs
  | some (front, block) =>
    let early := match splitAtArray? cs with
      | some (a, _) => decide (a.length < front.length)
      | none => false
    if early then cs
    else
      let body := afterInfo (block.drop fence.length)
      Text.trim ((beforeFence? .outside body).getD body)

end ThreatModel.Reply
