import ThreatModel.Json.Basic
import ThreatModel.Number.Decimal
import ThreatModel.Text.Hex
import ThreatModel.Text.Search

/-!
# Scalars of TOML

Booleans, numbers, dates and times, which are written without quotes. Numbers may have underscores
between their digits.
-/

namespace ThreatModel.Toml

/-! ### Numbers -/

/-- The digits of a number without the underscores between them. -/
def digits? (isDigit : Char → Bool) (cs : List Char) : Option (List Char) :=
  let parts := Text.splitOn '_' cs
  if parts.all fun p => !p.isEmpty && p.all isDigit then some parts.flatten else none

/-- The number that digits of a base denote. -/
def ofBase (base : Nat) (ds : List Char) : Nat :=
  ds.foldl (fun n d => base * n + (Text.hexValue? d).getD 0) 0

/-- Digits of a base behind its mark. -/
def based? (base : Nat) (cs : List Char) : Option Nat :=
  (digits? (fun c => ((Text.hexValue? c).any (· < base))) cs).map (ofBase base)

/-- The digits of a decimal number, which has no zero in front. -/
def whole? (cs : List Char) : Option (List Char) :=
  match cs with
  | '0' :: _ :: _ => none
  | _ => digits? Char.isDigit cs

/-- Splits a sign off: whether it is a minus, and what follows. -/
def unsigned : List Char → Bool × List Char
  | '-' :: r => (true, r)
  | '+' :: r => (false, r)
  | r => (false, r)

/-- The integers that a number may denote: those of 128 bits, with a sign or without. -/
def isInRange (n : Int) : Bool := -(Nat.pow 2 127 : Int) ≤ n && n < Nat.pow 2 128

/-- An integer. -/
def integer? (cs : List Char) : Option Int := do
  let n : Int ← match cs with
    | '0' :: 'x' :: r => (based? 16 r).map Int.ofNat
    | '0' :: 'o' :: r => (based? 8 r).map Int.ofNat
    | '0' :: 'b' :: r => (based? 2 r).map Int.ofNat
    | _ =>
      let (negative, r) := unsigned cs
      (whole? r).map fun ds => if negative then -(ofBase 10 ds : Int) else ofBase 10 ds
  if isInRange n then some n else none

/-- The exponent of a number. -/
def exponent? (cs : List Char) : Option Int :=
  let (negative, r) := unsigned cs
  (digits? Char.isDigit r).map fun ds => if negative then -(ofBase 10 ds : Int) else ofBase 10 ds

/-- Splits at the mark of an exponent, in either case. -/
def splitExponent (cs : List Char) : List Char × Option (List Char) :=
  match cs.dropWhile fun c => c != 'e' && c != 'E' with
  | [] => (cs, none)
  | _ :: r => (cs.takeWhile fun c => c != 'e' && c != 'E', some r)

/-- A number with a point or an exponent; one that is too large is refused. -/
def float? (cs : List Char) : Option Binary := do
  let (negative, r) := unsigned cs
  match r with
  | ['i', 'n', 'f'] => return .infinite negative
  | ['n', 'a', 'n'] => return .nan
  | _ =>
    let (mantissa, exponent) := splitExponent r
    let (whole, fraction) ← match Text.splitFirst? '.' mantissa with
      | some (a, b) => do pure (← whole? a, some (← digits? Char.isDigit b))
      | none => do pure (← whole? mantissa, none)
    if fraction.isNone && exponent.isNone then none
    else
      let e ← match exponent with
        | some x => exponent? x
        | none => some 0
      let frac := fraction.getD []
      let x := Precision.double.ofDecimal negative (ofBase 10 (whole ++ frac)) (e - frac.length)
      if x.isFinite then return x else none

/-! ### Dates and times -/

/-- The number that exactly so many digits denote, at most `max`. -/
def field? (width max : Nat) (cs : List Char) : Option Nat :=
  if cs.length = width && cs.all Char.isDigit && ofBase 10 cs ≤ max then some (ofBase 10 cs)
  else none

/-- Whether a text is a date. -/
def isDate (cs : List Char) : Bool :=
  match Text.splitOn '-' cs with
  | [y, m, d] =>
    match field? 4 9999 y, field? 2 12 m, field? 2 31 d with
    | some y, some m, some d =>
      let leap := y % 4 = 0 && (y % 100 != 0 || y % 400 = 0)
      let last :=
        if m = 2 then (if leap then 29 else 28) else if [4, 6, 9, 11].contains m then 30 else 31
      1 ≤ m && 1 ≤ d && d ≤ last
    | _, _, _ => false
  | _ => false

/-- Whether a text is a time of day; the seconds may be left out. -/
def isTime (cs : List Char) : Bool :=
  let isSecond (s : List Char) := match Text.splitFirst? '.' s with
    | some (a, b) => (field? 2 60 a).isSome && !b.isEmpty && b.all Char.isDigit
    | none => (field? 2 60 s).isSome
  match Text.splitOn ':' cs with
  | [h, m] => (field? 2 23 h).isSome && (field? 2 59 m).isSome
  | [h, m, s] => (field? 2 23 h).isSome && (field? 2 59 m).isSome && isSecond s
  | _ => false

/-- Whether a text is a time of day, perhaps with an offset from UTC. -/
def isZonedTime (cs : List Char) : Bool :=
  let isOffset (s : List Char) := match Text.splitOn ':' s with
    | [h, m] => (field? 2 23 h).isSome && (field? 2 59 m).isSome
    | _ => false
  match cs.getLast? with
  | some 'Z' | some 'z' => isTime cs.dropLast
  | _ =>
    match Text.splitFirst? '+' cs, Text.splitFirst? '-' cs with
    | some (t, o), _ => isTime t && isOffset o
    | none, some (t, o) => isTime t && isOffset o
    | none, none => isTime cs

/-- Whether a text is a date, a time of day or both. -/
def isMoment (cs : List Char) : Bool :=
  isTime cs || isDate cs ||
    (isDate (cs.take 10) &&
      match cs.drop 10 with
      | c :: r => (c = 'T' || c = 't' || c = ' ') && isZonedTime r
      | [] => false)

/-! ### Scalars -/

/-- The value of a scalar. A date or time, which no setting has, is an object with a member of its
own. -/
def scalar? (cs : List Char) : Option Json :=
  match String.ofList cs with
  | "true" => some (.bool true)
  | "false" => some (.bool false)
  | s =>
    match integer? cs with
    | some n => some (.int n)
    | none =>
      match float? cs with
      | some x => some (.number (.double x))
      | none => if isMoment cs then some (.object [("moment", .string s)]) else none

end ThreatModel.Toml
