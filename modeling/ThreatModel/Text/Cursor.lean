import ThreatModel.Text.Search

/-!
# Cursors

A `Cursor` is a place between two characters of a text. It knows what stands on both sides, so that
a search can look back as well as ahead, and its offset in bytes of UTF-8. Moving keeps the text
(`text_next`, `text_back`).
-/

namespace ThreatModel.Text

/-- A place in a text. -/
structure Cursor where
  /-- The characters in front of the place, the nearest first. -/
  before : List Char
  /-- The characters behind it. -/
  after : List Char
  /-- The number of bytes in front of it. -/
  offset : Nat
  offset_eq : offset = utf8Length before

namespace Cursor

/-- The front of a text. -/
def start (cs : List Char) : Cursor := ⟨[], cs, 0, rfl⟩

/-- The whole text. -/
def text (k : Cursor) : List Char := k.before.reverse ++ k.after

/-- One character ahead, over the character `c`. -/
def push (k : Cursor) (c : Char) (r : List Char) : Cursor :=
  ⟨c :: k.before, r, k.offset + c.utf8Size, by simp [k.offset_eq, Nat.add_comm]⟩

/-- The next character and the place behind it. -/
def next? (k : Cursor) : Option (Char × Cursor) :=
  match k.after with
  | [] => none
  | c :: r => some (c, k.push c r)

/-- The place in front of the last character passed; at the front of the text, the same place. -/
def back (k : Cursor) : Cursor :=
  match h : k.before with
  | [] => k
  | c :: b => ⟨b, c :: k.after, k.offset - c.utf8Size, by simp [k.offset_eq, h]⟩

/-- The place after a number of bytes. -/
def atOffset (cs : List Char) (n : Nat) : Cursor :=
  let (a, b) := splitBytes n cs
  ⟨a.reverse, b, utf8Length a, (utf8Length_reverse a).symm⟩

/-- The number of the line that the place is on, counted from one. -/
def line (k : Cursor) : Nat := k.before.count '\n' + 1

/-- The line that the place is on, without its line break. -/
def lineText (k : Cursor) : List Char :=
  (k.before.takeWhile (· != '\n')).reverse ++ k.after.takeWhile (· != '\n')

/-- The characters from one place up to a later one of the same text. -/
def upTo (k e : Cursor) : List Char := k.after.take (k.after.length - e.after.length)

/-- The characters in front of the place. -/
def front (k : Cursor) : List Char := k.before.reverse

@[simp] theorem text_start (cs : List Char) : (start cs).text = cs := rfl

theorem text_push {k : Cursor} {c : Char} {r : List Char} (h : k.after = c :: r) :
    (k.push c r).text = k.text := by
  simp [push, text, h]

theorem text_next {k k' : Cursor} {c : Char} (h : k.next? = some (c, k')) : k'.text = k.text := by
  unfold next? at h
  split at h
  · cases h
  next c' r hk =>
    simp only [Option.some.injEq, Prod.mk.injEq] at h
    obtain ⟨-, rfl⟩ := h
    exact text_push hk

theorem text_back (k : Cursor) : k.back.text = k.text := by
  unfold back
  split
  · rfl
  next c b h => simp [text, h]

end Cursor

end ThreatModel.Text
