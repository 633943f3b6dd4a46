import ThreatModel.Json.Reader
import ThreatModel.Reply.Literal
import ThreatModel.Text.Blank
import ThreatModel.Text.Search

/-!
# The array in a reply

A reply holds an array of objects somewhere among other text, possibly cut off. `splitAtArray?`
finds its opening bracket, `throughLast` cuts behind the last closing one, and
`throughLastElement?` cuts an array that was broken off behind the last element that is an object
and complete.
-/

namespace ThreatModel.Reply

/-- Whether a text goes on with an object, blanks aside. -/
def opensObject (cs : List Char) : Bool := (Text.trimStart cs).head? == some '\x7b'

/-- The text in front of the first opening bracket that an object follows, and the text from that
bracket on. -/
def splitAtObjects? : List Char → Option (List Char × List Char)
  | [] => none
  | c :: r =>
    if c = '[' && opensObject r then some ([], c :: r)
    else (splitAtObjects? r).map fun (a, b) => (c :: a, b)

/-- The text in front of an array, and the text from its opening bracket on. A bracket that an
object follows goes before any other. -/
def splitAtArray? (cs : List Char) : Option (List Char × List Char) :=
  match splitAtObjects? cs with
  | some p => some p
  | none => Text.splitAt? ['['] cs

/-- The text up to and with the last occurrence of a character; all of it if there is none. -/
def throughLast (c : Char) (cs : List Char) : List Char :=
  match Text.splitLast? c cs with
  | some (a, _) => a ++ [c]
  | none => cs

/-- The array in a text: from its opening bracket to the last closing one, or to the end. -/
def arrayText? (cs : List Char) : Option (List Char) :=
  (splitAtArray? cs).map fun p => throughLast ']' p.2

/-- The longest front of a text that ends with the closing brace of an element: one at depth two,
counted from `depth`, outside of literals. The search ends where the outermost bracket closes. -/
def throughElement? (p : Place) (depth : Nat) : List Char → Option (List Char)
  | [] => none
  | c :: r =>
    if p = .outside && (c = '[' || c = '\x7b') then
      (throughElement? .outside (depth + 1) r).map (c :: ·)
    else if p = .outside && (c = ']' || c = '\x7d') then
      let later := if depth - 1 = 0 then none else throughElement? .outside (depth - 1) r
      match later with
      | some cs => some (c :: cs)
      | none => if c = '\x7d' && depth = 2 then some [c] else none
    else (throughElement? (p.step c) depth r).map (c :: ·)

/-- The front of an array up to the end of its last complete element that is an object. -/
def throughLastElement? (cs : List Char) : Option (List Char) := throughElement? .outside 0 cs

/-- The elements of an array that was broken off, up to the last complete object. -/
def recovered (cs : List Char) : List Json :=
  match throughLastElement? cs with
  | none => []
  | some front =>
    match Json.readChars? (front ++ [']']) with
    | some (.array xs) => xs
    | _ => []

theorem splitAtObjects?_eq_some {cs a b : List Char} (h : splitAtObjects? cs = some (a, b)) :
    a ++ b = cs ∧ ∃ r, b = '[' :: r ∧ opensObject r = true := by
  induction cs generalizing a with
  | nil => cases h
  | cons c r ih =>
    unfold splitAtObjects? at h
    split at h
    next hc =>
      simp only [Option.some.injEq, Prod.mk.injEq] at h
      obtain ⟨rfl, rfl⟩ := h
      simp only [Bool.and_eq_true, decide_eq_true_eq] at hc
      exact ⟨rfl, r, by rw [hc.1], hc.2⟩
    next =>
      simp only [Option.map_eq_some_iff, Prod.mk.injEq, Prod.exists] at h
      obtain ⟨a', b', h', rfl, rfl⟩ := h
      obtain ⟨h₁, h₂⟩ := ih h'
      exact ⟨by simp [h₁], h₂⟩

theorem throughElement?_isPrefix {p : Place} {depth : Nat} {cs front : List Char}
    (h : throughElement? p depth cs = some front) : front <+: cs := by
  induction cs generalizing p depth front with
  | nil => cases h
  | cons c r ih =>
    unfold throughElement? at h
    split at h
    · obtain ⟨f, hf, rfl⟩ := Option.map_eq_some_iff.1 h
      exact List.cons_prefix_cons.2 ⟨rfl, ih hf⟩
    · split at h
      · dsimp only at h
        split at h
        next f hf =>
          split at hf
          · cases hf
          · cases h
            exact List.cons_prefix_cons.2 ⟨rfl, ih hf⟩
        next =>
          split at h
          · cases h
            exact List.cons_prefix_cons.2 ⟨rfl, List.nil_prefix⟩
          · cases h
      · obtain ⟨f, hf, rfl⟩ := Option.map_eq_some_iff.1 h
        exact List.cons_prefix_cons.2 ⟨rfl, ih hf⟩

end ThreatModel.Reply
