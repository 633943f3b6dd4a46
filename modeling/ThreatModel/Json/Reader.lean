import ThreatModel.Json.Tree
import ThreatModel.Text.Hex
import ThreatModel.Text.Reader

/-!
# Reading JSON

A recursive-descent reader over the characters of a text. Nesting is bounded by a depth.

* `Json.tree?` reads a whole text of any nesting into a syntax tree;
* `Json.read?` reads a whole text into a value; nesting of more than `maxDepth` levels is refused.
-/

namespace ThreatModel.Json

open Text (Reader Rest Left)

/-! ### Blanks -/

/-- The four characters that may stand between tokens. -/
def isBlank (c : Char) : Bool := c == ' ' || c == '\n' || c == '\r' || c == '\t'

/-- The text without the blanks at its front. -/
def skip (cs : List Char) : List Char := cs.dropWhile isBlank

theorem length_skip_le (cs : List Char) : (skip cs).length ≤ cs.length := by
  induction cs with
  | nil => simp [skip]
  | cons c r ih =>
    unfold skip at ih ⊢
    by_cases h : isBlank c = true
    · simp only [List.dropWhile_cons, h, if_true, List.length_cons]
      omega
    · simp [h]

theorem length_lt_of_skip {cs r : List Char} {c : Char} (h : skip cs = c :: r) :
    r.length < cs.length := by
  have := length_skip_le cs
  rw [h, List.length_cons] at this
  exact this

/-! ### Scalars -/

/-- The character that a one-letter escape stands for. -/
def shortEscape? : Char → Option Char
  | '"' => some '"'
  | '\\' => some '\\'
  | '/' => some '/'
  | 'b' => some '\x08'
  | 'f' => some '\x0c'
  | 'n' => some '\n'
  | 'r' => some '\r'
  | 't' => some '\t'
  | _ => none

/-- The rest of a string literal after its opening quote, the closing quote included. -/
def literal : (cs : List Char) → Option (Literal × Rest cs)
  | [] => none
  | '"' :: _ => some ([], .tail)
  | '\\' :: 'u' :: a :: b :: c :: d :: r => do
    let u := ((← Text.hexValue? a) * 16 + (← Text.hexValue? b)) * 256 +
      (← Text.hexValue? c) * 16 + (← Text.hexValue? d)
    let (l, s) ← literal r
    return (.unit u :: l, s.behind.behind.behind.behind.behind.behind)
  | '\\' :: e :: r => do
    let c ← shortEscape? e
    let (l, s) ← literal r
    return (.char c :: l, s.behind.behind)
  | c :: r =>
    if c = '\\' || c.toNat < 32 then none
    else do
      let (l, s) ← literal r
      return (.char c :: l, s.behind)

/-- The digits at the front of a text, and the text after them. -/
def digits : List Char → List Nat × List Char
  | [] => ([], [])
  | c :: r => if c.isDigit then ((c.toNat - 48) :: (digits r).1, (digits r).2) else ([], c :: r)

theorem length_digits (cs : List Char) :
    (digits cs).1.length + (digits cs).2.length = cs.length := by
  induction cs with
  | nil => rfl
  | cons c r ih =>
    by_cases h : c.isDigit = true
    · simp only [digits, h, if_true, List.length_cons]
      omega
    · simp [digits, h]

/-- Without a digit at its front, a text is left as it is. -/
theorem length_digits_le (cs : List Char) : (digits cs).2.length ≤ cs.length := by
  have := length_digits cs
  omega

/-- The text after the digits at its front. -/
def behindDigits (cs : List Char) : Left cs := ⟨(digits cs).2, length_digits_le cs⟩

@[simp] theorem val_behindDigits (cs : List Char) : (behindDigits cs).1 = (digits cs).2 := rfl

/-- The digits after a point, if there is one; a point needs a digit after it. -/
def fractionPart (cs : List Char) : Option (Option (List Nat) × Left cs) :=
  match cs with
  | '.' :: r =>
    if (digits r).1.isEmpty then none else some (some (digits r).1, (behindDigits r).behind)
  | r => some (none, .all r)

/-- The exponent, if there is one; it needs a digit. -/
def exponentPart (cs : List Char) : Option (Option (Bool × List Nat) × Left cs) :=
  match cs with
  | [] => some (none, .all [])
  | c :: r =>
    if c = 'e' || c = 'E' then
      let (negative, ⟨ds, h⟩) : Bool × Left r := match r with
        | '-' :: s => (true, (Left.all s).behind)
        | '+' :: s => (false, (Left.all s).behind)
        | s => (false, .all s)
      if (digits ds).1.isEmpty then none
      else some (some (negative, (digits ds).1), ((behindDigits ds).within h).behind)
    else some (none, .all (c :: r))

/-- A number without its sign: no leading zero before another digit. -/
def unsignedNumeral (negative : Bool) (cs : List Char) : Option (Numeral × Rest cs) :=
  match h : digits cs with
  | ([], _) => none
  | (d :: ds, r) =>
    have hr : r.length < cs.length := by
      have := length_digits cs
      rw [h] at this
      simp at this
      omega
    if d = 0 && !ds.isEmpty then none
    else do
      let (frac, ⟨r₁, h₁⟩) ← fractionPart r
      let (exp, ⟨r₂, h₂⟩) ← exponentPart r₁
      return (⟨negative, d :: ds, frac, exp⟩, ⟨r₂, by omega⟩)

/-- A number. -/
def numeral (cs : List Char) : Option (Numeral × Rest cs) :=
  match cs with
  | '-' :: r => (unsignedNumeral true r).map fun (n, s) => (n, s.behind)
  | r => unsignedNumeral false r

/-- The text after a fixed word at its front. -/
def word : List Char → (cs : List Char) → Option (Left cs)
  | [], cs => some (.all cs)
  | w :: ws, c :: r => if w = c then (word ws r).map (·.behind) else none
  | _ :: _, [] => none

/-- A scalar: anything but an array or an object. -/
def scalar (cs : List Char) : Option (Tree × Rest cs) :=
  match cs with
  | 'n' :: r => (word ['u', 'l', 'l'] r).map fun s => (.null, s.rest)
  | 't' :: r => (word ['r', 'u', 'e'] r).map fun s => (.bool true, s.rest)
  | 'f' :: r => (word ['a', 'l', 's', 'e'] r).map fun s => (.bool false, s.rest)
  | '"' :: r => (literal r).map fun (l, s) => (.string l, s.behind)
  | r => (numeral r).map fun (n, s) => (.number n, s)

/-! ### Arrays and objects -/

/-- Items with commas between them, up to and with the closing character; at least one item. -/
def itemsUntil {α : Type} (close : Char) (item : Reader α) (cs : List Char) :
    Option (List α × Rest cs) :=
  match item (skip cs) with
  | none => none
  | some (x, ⟨r, hr⟩) =>
    have hskip := length_skip_le cs
    match h : skip r with
    | [] => none
    | c :: r' =>
      have hr' : r'.length < cs.length := by
        have := length_skip_le r
        rw [h] at this
        simp at this
        omega
      if c = ',' then
        match itemsUntil close item r' with
        | none => none
        | some (xs, s) => some (x :: xs, s.within (by omega))
      else if c = close then some ([x], ⟨r', hr'⟩)
      else none
termination_by cs.length

/-- What follows an opening bracket: nothing or items, and the closing one. -/
def itemsOrNone {α : Type} (close : Char) (item : Reader α) (cs : List Char) :
    Option (List α × Rest cs) :=
  match h : skip cs with
  | [] => none
  | c :: r =>
    if c = close then some ([], ⟨r, length_lt_of_skip h⟩) else itemsUntil close item cs

/-- A member of an object. -/
def memberOf (value : Reader Tree) : Reader (Literal × Tree) := fun cs =>
  match cs with
  | '"' :: r =>
    match literal r with
    | none => none
    | some (l, ⟨r₁, h₁⟩) =>
      match h : skip r₁ with
      | ':' :: r₂ =>
        match value (skip r₂) with
        | none => none
        | some (v, s) => some ((l, v), s.within (by
            have := length_skip_le r₁
            have := length_skip_le r₂
            simp_all
            omega))
      | _ => none
  | _ => none

/-- A value whose arrays and objects are nested at most `depth` levels deep. -/
def value : (depth : Nat) → Reader Tree
  | 0, cs => scalar cs
  | depth + 1, cs =>
    match cs with
    | '[' :: r =>
      (itemsOrNone ']' (value depth) r).map fun (ts, s) => (.array ts, s.behind)
    | '\x7b' :: r =>
      (itemsOrNone '\x7d' (memberOf (value depth)) r).map fun (ms, s) => (.object ms, s.behind)
    | cs => scalar cs

/-! ### Whole texts -/

/-- The nesting that a value may have. -/
def maxDepth : Nat := 127

/-- A whole text: one value with nothing but blanks around it. -/
def whole (depth : Nat) (cs : List Char) : Option Tree :=
  match value depth (skip cs) with
  | some (t, r) => if (skip r.1).isEmpty then some t else none
  | none => none

/-- The syntax tree of a text, of any nesting. -/
def tree? (cs : List Char) : Option Tree := whole cs.length cs

/-- The value of a text. -/
def readChars? (cs : List Char) : Option Json := (whole maxDepth cs).bind Tree.value?

/-- The value of a text. -/
def read? (s : String) : Option Json := readChars? s.toList

end ThreatModel.Json
