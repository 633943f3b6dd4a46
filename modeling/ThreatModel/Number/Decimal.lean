import ThreatModel.Number.Binary

/-!
# Decimal text of binary numbers

Three exact conversions between `Binary` and decimal notation.

* `Precision.shortest` gives the fewest digits that read back as the value, and among those the
  nearest to it;
* `Binary.fixed` rounds the exact value to a number of places, ties to even;
* `Binary.ofText?` reads a decimal with optional sign, point and exponent, or a name for an
  infinity or NaN.
-/

namespace ThreatModel

/-- The digits of a number, most significant first. -/
def digitText (n : Nat) : List Char := Nat.toDigits 10 n

/-- The number that a run of decimal digits denotes. -/
def ofDigits (ds : List Char) : Nat := ds.foldl (fun n c => 10 * n + (c.toNat - 48)) 0

namespace Precision

variable (p : Precision)

/-- `10 ^ k / 2 ^ f` as a quotient. -/
def gridRatio (k f : Int) : Nat × Nat :=
  (Nat.pow 10 k.toNat * Nat.pow 2 (-f).toNat, Nat.pow 10 (-k).toNat * Nat.pow 2 f.toNat)

/-- The better of the two multiples of `10 ^ k` around `m · 2 ^ e`, if one of them reads back as
that value. Ends of the interval of numbers that read back are kept in quarters of a unit. -/
def onGrid (m : Nat) (e k : Int) : Option Nat :=
  let low :=
    if m = Nat.pow 2 (p.bits - 1) && decide (p.minExponent < e) then 4 * m - 1 else 4 * m - 2
  let high := 4 * m + 2
  let (a, b) := gridRatio k (e - 2)
  let inside (c : Nat) : Bool :=
    if m % 2 = 0 then low * b ≤ c * a && c * a ≤ high * b
    else low * b < c * a && c * a < high * b
  let c := 4 * m * b / a
  let below := 4 * m * b - c * a
  let above := (c + 1) * a - 4 * m * b
  match inside c, inside (c + 1) with
  | true, true => some (if below < above || (below == above && c % 2 == 0) then c else c + 1)
  | true, false => some c
  | false, true => some (c + 1)
  | false, false => none

/-- A power of ten above `m · 2 ^ e`, by at most two places. -/
def decimalCeiling (m : Nat) (e : Int) : Int :=
  let (a, b) := (m * Nat.pow 2 e.toNat, Nat.pow 2 (-e).toNat)
  if b ≤ a then (digitText (a / b)).length else 2 - (digitText (b / a)).length

/-- The digits `d` and the exponent `k` of the shortest decimal `d · 10 ^ k` that reads back as
`m · 2 ^ e`: grids of powers of ten are tried from coarse to fine. -/
def shortest (m : Nat) (e : Int) : Nat × Int :=
  if m = 0 then (0, 0)
  else
    let top := decimalCeiling m e
    let tries := (List.range 21).map fun i : Nat => top - (i : Int)
    (tries.findSome? fun k => (p.onGrid m e k).map (·, k)).getD (m, e)

end Precision

namespace Binary

/-- The double that reads as the shortest decimal of a number of single precision. -/
def widened : Binary → Binary
  | finite negative m e =>
    let (d, k) := Precision.single.shortest m e
    Precision.double.ofDecimal negative d k
  | x => x

/-- Writes a number of units of `10 ^ (-places)` with a point before the last `places` digits. -/
def pointed (units places : Nat) : List Char :=
  if places = 0 then digitText units
  else
    let frac := digitText (units % Nat.pow 10 places)
    digitText (units / Nat.pow 10 places) ++
      '.' :: (List.replicate (places - frac.length) '0' ++ frac)

/-- The exact value with the given number of places, ties to even. -/
def fixed (places : Nat) : Binary → List Char
  | finite s m e =>
    let units :=
      Rounding.halfEven (m * Nat.pow 2 e.toNat * Nat.pow 10 places) (Nat.pow 2 (-e).toNat)
    (if s then ['-'] else []) ++ pointed units places
  | infinite s => (if s then ['-'] else []) ++ "inf".toList
  | nan => "NaN".toList

/-- An optional exponent: `e` or `E`, an optional sign and at least one digit, up to the end. -/
def exponentOf? : List Char → Option Int
  | [] => some 0
  | c :: r =>
    if c = 'e' || c = 'E' then
      let (negative, ds) := match r with
        | '-' :: ds => (true, ds)
        | '+' :: ds => (false, ds)
        | ds => (false, ds)
      if ds.isEmpty || !ds.all Char.isDigit then none
      else some (if negative then -(ofDigits ds : Int) else ofDigits ds)
    else none

/-- Digits with at most one point among them and at least one digit, then an exponent. -/
def unsigned? (negative : Bool) (cs : List Char) : Option Binary :=
  let whole := cs.takeWhile Char.isDigit
  let (frac, rest) := match cs.dropWhile Char.isDigit with
    | '.' :: r => (r.takeWhile Char.isDigit, r.dropWhile Char.isDigit)
    | r => ([], r)
  if whole.isEmpty && frac.isEmpty then none
  else (exponentOf? rest).map fun e =>
    Precision.double.ofDecimal negative (ofDigits (whole ++ frac)) (e - frac.length)

/-- Reads a decimal number, `inf`, `infinity` or `nan` (in any case), with an optional sign. -/
def ofText? (cs : List Char) : Option Binary :=
  let (negative, body) := match cs with
    | '-' :: r => (true, r)
    | '+' :: r => (false, r)
    | r => (false, r)
  let name := String.ofList (body.map Char.toLower)
  if name = "inf" || name = "infinity" then some (infinite negative)
  else if name = "nan" then some nan
  else unsigned? negative body

end Binary

end ThreatModel
