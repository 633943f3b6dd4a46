import ThreatModel.Number.Decimal
import ThreatModel.Text.Blank
import ThreatModel.Text.Search

/-!
# Instants

Points in time as they stand in reports: a date and a time of day in UTC, written as in RFC 3339.
The calendar is the Gregorian one, without a beginning. Reading accepts any offset from UTC, blanks
between the numbers, and numbers without leading zeros.
-/

namespace ThreatModel

/-! ### Calendar -/

/-- A date of the Gregorian calendar. -/
structure Date where
  year : Int
  month : Nat
  day : Nat
  deriving DecidableEq, Repr, Inhabited

namespace Date

/-- Whether a year has a leap day. -/
def isLeapYear (year : Int) : Bool := year % 4 == 0 && (year % 100 != 0 || year % 400 == 0)

/-- The number of days of a month. -/
def daysInMonth (year : Int) (month : Nat) : Nat :=
  if month = 2 then if isLeapYear year then 29 else 28
  else if [4, 6, 9, 11].contains month then 30
  else 31

/-- Whether the calendar has such a date. -/
def isValid (d : Date) : Bool :=
  1 ≤ d.month && d.month ≤ 12 && 1 ≤ d.day && d.day ≤ daysInMonth d.year d.month

/-- The number of days from the first of March of the year zero to a date. -/
def toDays (d : Date) : Int :=
  -- Years begin in March here, so that a leap day is the last day of its year.
  let y := if d.month ≤ 2 then d.year - 1 else d.year
  let m := (d.month + 9) % 12
  365 * y + y / 4 - y / 100 + y / 400 + ((153 * m + 2) / 5 : Nat) + (d.day - 1)

/-- The date so many days after the first of March of the year zero. -/
def ofDays (n : Int) : Date :=
  let era := n / 146097
  let e := (n % 146097).toNat
  -- Inside four hundred years: leap days are taken out before dividing by the length of a year.
  let y := (e - e / 1460 + e / 36524 - e / 146096) / 365
  let d := e - (365 * y + y / 4 - y / 100)
  let m := (5 * d + 2) / 153
  let month := if m < 10 then m + 3 else m - 9
  ⟨era * 400 + y + (if month ≤ 2 then 1 else 0), month, d - (153 * m + 2) / 5 + 1⟩

end Date

/-- A point in time. -/
structure Instant where
  date : Date
  /-- The minute of the day. -/
  minute : Nat
  /-- The second of the minute, 60 inside a leap second. -/
  second : Nat
  nanosecond : Nat
  deriving DecidableEq, Repr, Inhabited

namespace Instant

/-- The beginning of the year 1970. -/
def epoch : Instant := ⟨⟨1970, 1, 1⟩, 0, 0, 0⟩

/-- The instant so many nanoseconds after the beginning of the year 1970. -/
def ofNanoseconds (n : Int) : Instant :=
  let second := n / 1000000000
  let time := (second % 86400).toNat
  ⟨Date.ofDays (epoch.date.toDays + second / 86400), time / 60, time % 60,
    (n % 1000000000).toNat⟩

/-! ### Writing -/

/-- A number with at least so many digits. -/
def padded (width n : Nat) : List Char :=
  let ds := digitText n
  List.replicate (width - ds.length) '0' ++ ds

/-- A year: four digits, with a sign if they are not enough. -/
def yearText (y : Int) : List Char :=
  if y < 0 then '-' :: padded 4 y.natAbs
  else if y < 10000 then padded 4 y.natAbs
  else '+' :: padded 4 y.natAbs

/-- The fraction of a second with three, six or nine digits, or with none. -/
def fractionText (n : Nat) : List Char :=
  if n = 0 then []
  else if n % 1000000 = 0 then '.' :: padded 3 (n / 1000000)
  else if n % 1000 = 0 then '.' :: padded 6 (n / 1000)
  else '.' :: padded 9 n

/-- An instant as text, in UTC. -/
def text (t : Instant) : List Char :=
  yearText t.date.year ++ '-' :: padded 2 t.date.month ++ '-' :: padded 2 t.date.day ++
    'T' :: padded 2 (t.minute / 60) ++ ':' :: padded 2 (t.minute % 60) ++
    ':' :: padded 2 t.second ++ fractionText t.nanosecond ++ ['Z']

/-! ### Reading -/

/-- A number of at least one and at most `width` digits, behind any blanks. -/
def number? (width : Nat) (cs : List Char) : Option (Nat × List Char) :=
  let cs := Text.trimStart cs
  let ds := (cs.take width).takeWhile Char.isDigit
  if ds.isEmpty then none else some (ofDigits ds, cs.drop ds.length)

/-- A year: up to four digits, or a sign and any number of digits. -/
def year? (cs : List Char) : Option (Int × List Char) :=
  match Text.trimStart cs with
  | '-' :: r => signed r fun n => -(n : Int)
  | '+' :: r => signed r fun n => (n : Int)
  | r => (number? 4 r).map fun (n, r) => ((n : Int), r)
where
  /-- What follows the sign of a year. -/
  signed (r : List Char) (sign : Nat → Int) : Option (Int × List Char) :=
    let ds := r.takeWhile Char.isDigit
    if ds.isEmpty then none else some (sign (ofDigits ds), r.drop ds.length)

/-- What stands behind a mark, with blanks in front of it. -/
def after? (mark : Char) (cs : List Char) : Option (List Char) :=
  match Text.trimStart cs with
  | c :: r => if c = mark then some r else none
  | [] => none

/-- The fraction of a second in nanoseconds: digits behind the ninth do not count. -/
def fraction? : List Char → Option (Nat × List Char)
  | '.' :: r =>
    let ds := r.takeWhile Char.isDigit
    if ds.isEmpty then none
    else
      let kept := ds.take 9
      some (ofDigits kept * Nat.pow 10 (9 - kept.length), r.drop ds.length)
  | r => some (0, r)

/-- Two digits. -/
def twoDigits? : List Char → Option (Nat × List Char)
  | a :: b :: r => if a.isDigit && b.isDigit then some (ofDigits [a, b], r) else none
  | _ => none

/-- An offset from UTC in minutes. -/
def offset? (cs : List Char) : Option (Int × List Char) :=
  let cs := Text.trimStart cs
  if (cs.take 3).map Char.toUpper = ['U', 'T', 'C'] then some (0, cs.drop 3)
  else
    match cs with
    | [] => none
    | c :: r =>
      if c = 'Z' || c = 'z' then some (0, r)
      else if c = '+' || c = '-' || c = '\u2212' then do
        let (h, r) ← twoDigits? r
        let (m, r) ← twoDigits? (r.dropWhile fun c => c = ':' || Text.isBlank c)
        if 60 ≤ m || 24 ≤ h then none
        else
          let n : Int := 60 * h + m
          return (if c = '+' then n else -n, r)
      else none

/-- The greatest distance of a year from the year zero. -/
def maxYear : Nat := 262142

/-- Moves an instant back by an offset of some minutes. -/
def back (offset : Int) (t : Instant) : Instant :=
  let n : Int := t.minute - offset
  { t with date := .ofDays (t.date.toDays + n / 1440), minute := (n % 1440).toNat }

/-- Reads an instant. -/
def ofText? (cs : List Char) : Option Instant := do
  let (year, cs) ← year? cs
  let (month, cs) ← number? 2 (← after? '-' cs)
  let (day, cs) ← number? 2 (← after? '-' cs)
  let cs ← match cs with
    | 'T' :: r | 't' :: r | ' ' :: r => some r
    | _ => none
  let (hour, cs) ← number? 2 cs
  let (minute, cs) ← number? 2 (← after? ':' cs)
  let (second, cs) ← number? 2 (← after? ':' cs)
  let (nano, cs) ← fraction? cs
  let (offset, cs) ← offset? cs
  let date : Date := ⟨year, month, day⟩
  if !date.isValid || maxYear < year.natAbs || 24 ≤ hour || 60 ≤ minute || 60 < second ||
      !cs.all Text.isBlank then none
  else return back offset ⟨date, 60 * hour + minute, second, nano⟩

end Instant

end ThreatModel
