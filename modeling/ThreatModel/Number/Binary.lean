import ThreatModel.Number.Rounding

/-!
# Binary floating-point numbers

`Binary` holds the exact value of a floating-point number: a sign, a whole mantissa and a power of
two. A `Precision` says which of these values a format has, and `Precision.nearest` rounds an
exact quotient to one of them, so every operation below is an exact rational operation followed by
one rounding.

* `Precision.nearest` rounds a quotient, ties to even;
* `Precision.mul`, `Precision.div` and `Precision.ofDecimal` are exact up to that rounding;
* `Binary.lt` and `Binary.magnitude` read a value back.
-/

namespace ThreatModel

/-- A floating-point value: `± mantissa · 2 ^ exponent`, an infinity, or not a number. -/
inductive Binary where
  | finite (negative : Bool) (mantissa : Nat) (exponent : Int)
  | infinite (negative : Bool)
  | nan
  deriving DecidableEq, Repr, Inhabited

/-- A floating-point format. -/
structure Precision where
  /-- Mantissas are below `2 ^ bits`. -/
  bits : Nat
  /-- The smallest exponent, that of the subnormal numbers. -/
  minExponent : Int
  /-- The largest exponent of a full mantissa. -/
  maxExponent : Int

/-- The 64-bit format. -/
def Precision.double : Precision := ⟨53, -1074, 971⟩

/-- The 32-bit format. -/
def Precision.single : Precision := ⟨24, -149, 104⟩

namespace Binary

/-- `num / den` in units of `2 ^ exponent`, as a quotient. -/
def inUnits (num den : Nat) (exponent : Int) : Nat × Nat :=
  (num * Nat.pow 2 (-exponent).toNat, den * Nat.pow 2 exponent.toNat)

/-- The absolute value as a quotient, for finite values. -/
def magnitude : Binary → Option (Nat × Nat)
  | finite _ m e => some (m * Nat.pow 2 e.toNat, Nat.pow 2 (-e).toNat)
  | _ => none

/-- Neither an infinity nor NaN. -/
def isFinite : Binary → Bool
  | finite .. => true
  | _ => false

/-- The sign bit; NaN counts as positive. -/
def isNegative : Binary → Bool
  | finite s _ _ => s
  | infinite s => s
  | nan => false

/-- The value with the other sign. -/
def neg : Binary → Binary
  | finite s m e => finite (!s) m e
  | infinite s => infinite (!s)
  | nan => nan

/-- The place of a value on the line of rationals, as a signed numerator and a denominator. -/
def signed (s : Bool) (m : Nat) (e : Int) : Int × Nat :=
  let n : Int := (m * Nat.pow 2 e.toNat : Nat)
  (if s then -n else n, Nat.pow 2 (-e).toNat)

/-- Strictly smaller; false as soon as one side is NaN. -/
def lt : Binary → Binary → Bool
  | finite s m e, finite s' m' e' =>
    let (a, b) := signed s m e
    let (c, d) := signed s' m' e'
    decide (a * d < c * b)
  | finite .., infinite s => !s
  | infinite s, finite .. => s
  | infinite s, infinite s' => s && !s'
  | _, _ => false

end Binary

namespace Precision

variable (p : Precision)

/-- Zero. -/
def zero (negative : Bool) : Binary := .finite negative 0 p.minExponent

/-- The exponent at which `num / den` has a mantissa of exactly `bits` bits, or the smallest
exponent for values too small for that. -/
def exponentFor (num den : Nat) : Int :=
  -- Both logarithms are rounded down, so that the guess is at most one too small.
  let guess : Int := (num.log2 : Int) - den.log2 - p.bits
  let (a, b) := Binary.inUnits num den guess
  max p.minExponent (if a / b < Nat.pow 2 p.bits then guess else guess + 1)

/-- The value nearest to `± num / den`, ties to even; beyond the largest value, an infinity. -/
def nearest (negative : Bool) (num den : Nat) : Binary :=
  if num = 0 then p.zero negative
  else
    let e := p.exponentFor num den
    let (a, b) := Binary.inUnits num den e
    let m := Rounding.halfEven a b
    -- Rounding up may take one bit more.
    let (m, e) := if m = Nat.pow 2 p.bits then (Nat.pow 2 (p.bits - 1), e + 1) else (m, e)
    if p.maxExponent < e then .infinite negative else .finite negative m e

/-- A natural number. -/
def ofNat (n : Nat) : Binary := p.nearest false n 1

/-- An integer. -/
def ofInt (n : Int) : Binary := p.nearest (n < 0) n.natAbs 1

/-- `± digits · 10 ^ exponent`. Values whose decimal magnitude is far outside the format are not
computed exactly: they are zero or infinite. -/
def ofDecimal (negative : Bool) (digits : Nat) (exponent : Int) : Binary :=
  let size : Int := (Nat.toDigits 10 digits).length + exponent
  if digits = 0 || size < -400 then p.zero negative
  else if 400 < size then .infinite negative
  else p.nearest negative (digits * Nat.pow 10 exponent.toNat) (Nat.pow 10 (-exponent).toNat)

/-- Product of two values. -/
def mul : Binary → Binary → Binary
  | .finite s m e, .finite s' m' e' =>
    p.nearest (s != s') (m * m' * Nat.pow 2 (e + e').toNat) (Nat.pow 2 (-(e + e')).toNat)
  | .nan, _ | _, .nan => .nan
  | .infinite s, .finite s' m _ => if m = 0 then .nan else .infinite (s != s')
  | .finite s m _, .infinite s' => if m = 0 then .nan else .infinite (s != s')
  | .infinite s, .infinite s' => .infinite (s != s')

/-- Quotient of two values. -/
def div : Binary → Binary → Binary
  | .finite s m e, .finite s' m' e' =>
    if m' = 0 then (if m = 0 then .nan else .infinite (s != s'))
    else p.nearest (s != s') (m * Nat.pow 2 (e - e').toNat) (m' * Nat.pow 2 (e' - e).toNat)
  | .nan, _ | _, .nan => .nan
  | .infinite s, .finite s' _ _ => .infinite (s != s')
  | .finite s _ _, .infinite s' => p.zero (s != s')
  | .infinite _, .infinite _ => .nan

/-- The value in this format: rounds a value of a wider format. -/
def convert : Binary → Binary
  | .finite s m e => p.nearest s (m * Nat.pow 2 e.toNat) (Nat.pow 2 (-e).toNat)
  | x => x

/-- The nearest whole value, halves away from zero. -/
def round : Binary → Binary
  | .finite s m e =>
    p.nearest s (Rounding.halfAway (m * Nat.pow 2 e.toNat) (Nat.pow 2 (-e).toNat)) 1
  | x => x

end Precision

end ThreatModel
