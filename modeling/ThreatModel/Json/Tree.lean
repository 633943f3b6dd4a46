import ThreatModel.Json.Basic
import ThreatModel.Number.Word

/-!
# JSON as written

`Json.Tree` is the syntax tree of a JSON text: numerals keep their digits, string literals their
escapes, objects every member in order. Its meaning is computed afterwards, because some readers
skip parts of a text whose meaning would be refused:

* `Numeral.value?` is the number of a numeral; it fails for numbers beyond the largest double;
* `Literal.text?` is the text of a string literal; it fails for a surrogate without a partner;
* `Tree.value?` is the `Json` value of a tree.
-/

namespace ThreatModel.Json

/-- A number as written: digits before the point, after it, and the exponent. -/
structure Numeral where
  negative : Bool
  whole : List Nat
  fraction : Option (List Nat)
  exponent : Option (Bool × List Nat)
  deriving DecidableEq, Repr

/-- One character of a string literal: a character, or a 16-bit code unit written `\uXXXX`. -/
inductive Glyph where
  | char (c : Char)
  | unit (code : Nat)
  deriving DecidableEq, Repr

/-- A string as written. -/
abbrev Literal := List Glyph

/-- A JSON text as written. -/
inductive Tree where
  | null
  | bool (value : Bool)
  | number (numeral : Numeral)
  | string (text : Literal)
  | array (items : List Tree)
  | object (members : List (Literal × Tree))
  deriving Repr, Inhabited

/-! ### Numbers -/

/-- Takes digits into a significand while it stays within 64 bits: the significand and the digits
left over. -/
def significand (n : Nat) : List Nat → Nat × List Nat
  | [] => (n, [])
  | d :: ds => if maxWord < n * 10 + d then (n, d :: ds) else significand (n * 10 + d) ds

/-- Scales a significand by a power of ten in the double format: the significand is rounded to a
double first, and one multiplication or division by a double power of ten rounds again. Powers
beyond the largest double power are reached by dividing in two steps. -/
def scaled (negative : Bool) (n : Nat) (exponent : Int) : Option Binary :=
  let p := Precision.double
  let x := p.ofNat n
  let power (k : Nat) : Binary := p.ofDecimal false 1 k
  let y :=
    if 0 ≤ exponent then
      if exponent ≤ 308 then p.mul x (power exponent.toNat)
      else if n = 0 then x else .infinite false
    else if -308 ≤ exponent then p.div x (power (-exponent).toNat)
    else
      -- No greater power of ten is a double.
      let x := p.div x (power 308)
      if -616 ≤ exponent then p.div x (power (-exponent - 308).toNat) else p.zero false
  if y.isFinite then some (if negative then y.neg else y) else none

/-- The number that the digits of a list denote. -/
def ofDigitValues (ds : List Nat) : Nat := ds.foldl (fun n d => 10 * n + d) 0

namespace Numeral

/-- The exponent part as an integer. -/
def exponentValue (n : Numeral) : Int :=
  match n.exponent with
  | none => 0
  | some (negative, ds) => if negative then -(ofDigitValues ds : Int) else ofDigitValues ds

/-- The number of a numeral. A whole number that fits in 64 bits is exact; anything else, and
minus zero, is a double, of which only as many digits count as fit into 64 bits. -/
def value? (n : Numeral) : Option Number :=
  let (w, dropped) := significand 0 n.whole
  if n.fraction.isNone && n.exponent.isNone && dropped.isEmpty then
    if !n.negative then some (.integer w)
    else if w = 0 || Nat.pow 2 63 < w then (scaled true w 0).map .double
    else some (.integer (-w))
  else
    let frac := n.fraction.getD []
    -- Digits that do not fit are dropped; those of the whole part still count as places.
    let (s, unused) := significand w frac
    let e : Int := dropped.length - (frac.length - unused.length : Nat) + n.exponentValue
    (scaled n.negative s e).map .double

end Numeral

/-! ### Strings -/

namespace Literal

/-- The text of a literal: a high surrogate joins with the low one that must follow it. -/
def text? : Literal → Option (List Char)
  | [] => some []
  | .char c :: r => (text? r).map (c :: ·)
  | .unit u :: r =>
    if 0xD800 ≤ u && u < 0xDC00 then
      match r with
      | .unit v :: r' =>
        if 0xDC00 ≤ v && v < 0xE000 then
          (text? r').map (Char.ofNat (0x10000 + (u - 0xD800) * 0x400 + (v - 0xDC00)) :: ·)
        else none
      | _ => none
    else if 0xDC00 ≤ u && u < 0xE000 then none
    else (text? r).map (Char.ofNat u :: ·)

/-- The text of a literal as a string. -/
def string? (l : Literal) : Option String := (text? l).map String.ofList

end Literal

/-! ### Values -/

mutual

/-- The value of a tree. -/
def Tree.value? : Tree → Option Json
  | .null => some .null
  | .bool b => some (.bool b)
  | .number n => n.value?.map .number
  | .string l => (Literal.string? l).map .string
  | .array ts => (Tree.values? ts).map .array
  | .object ms => (Tree.members? ms).map fun xs => .object (lastWins xs)

/-- The values of trees. -/
def Tree.values? : List Tree → Option (List Json)
  | [] => some []
  | t :: ts => do return (← t.value?) :: (← Tree.values? ts)

/-- The names and values of members. -/
def Tree.members? : List (Literal × Tree) → Option (List (String × Json))
  | [] => some []
  | (l, t) :: ms => do return (← Literal.string? l, ← t.value?) :: (← Tree.members? ms)

end

end ThreatModel.Json
