import ThreatModel.Number.Decimal
import ThreatModel.Text.Hex
import ThreatModel.Text.Search

/-!
# Addresses of hosts

Addresses of four bytes, whose parts may be decimal, octal or hexadecimal and whose last part takes
all bytes that are left, and addresses of eight groups in brackets. An address of four bytes is
written with four decimal parts.
-/

namespace ThreatModel.Url

/-! ### Four bytes -/

/-- The number that digits of a base denote. -/
def numberOf? (base : Nat) (cs : List Char) : Option Nat :=
  cs.foldlM (fun n c => (Text.hexValue? c).bind fun d =>
    if d < base then some (base * n + d) else none) 0

/-- One part of an address: hexadecimal behind `0x`, octal behind another zero, else decimal. -/
def addressPart? : List Char → Option Nat
  | [] => none
  | '0' :: c :: r =>
    if c = 'x' || c = 'X' then numberOf? 16 r else numberOf? 8 (c :: r)
  | cs => numberOf? 10 cs

/-- The parts of a name, without an empty one behind the last point. -/
def nameParts (cs : List Char) : List (List Char) :=
  let parts := Text.splitOn '.' cs
  if parts.getLast? = some [] && 1 < parts.length then parts.dropLast else parts

/-- Whether a name ends in a number, so that it has to be an address. -/
def endsInNumber (cs : List Char) : Bool :=
  match (nameParts cs).getLast? with
  | none => false
  | some part => (!part.isEmpty && part.all Char.isDigit) || (addressPart? part).isSome

/-- An address of four bytes, as one number. -/
def address? (cs : List Char) : Option Nat :=
  (nameParts cs).mapM addressPart? |>.bind fun numbers =>
    match numbers.getLast? with
    | none => none
    | some last =>
      let front := numbers.dropLast
      -- The last part takes all bytes that the others leave.
      if front.length < 4 && front.all (· < 256) && last < Nat.pow 256 (4 - front.length) then
        some (front.foldr (fun n sum => n * Nat.pow 256 3 + sum / 256) 0 + last)
      else none

/-- The text of an address of four bytes. -/
def addressText (n : Nat) : List Char :=
  ['.'].intercalate
    ([n / Nat.pow 256 3, n / Nat.pow 256 2 % 256, n / 256 % 256, n % 256].map digitText)

/-! ### Eight groups -/

/-- A byte in decimal, without zeros in front. -/
def isByte (cs : List Char) : Bool :=
  !cs.isEmpty && cs.length ≤ 3 && cs.all Char.isDigit && (cs.length == 1 || cs.head? != some '0') &&
    ofDigits cs < 256

/-- Four bytes with points in between. -/
def isDotted (cs : List Char) : Bool :=
  let parts := Text.splitOn '.' cs
  parts.length == 4 && parts.all isByte

/-- The hexadecimal digits at the front of a text, four at most. -/
def group (cs : List Char) : List Char := (cs.take 4).takeWhile fun c => (Text.hexValue? c).isSome

/-- Whether groups follow that make an address of eight, when `count` have been read. A double colon
stands for one group at least and may be there once: `squeezed` says that it has been. The last two
groups may be four bytes with points. -/
def groupsFit (count : Nat) (squeezed : Bool) : List Char → Bool
  | [] => squeezed || count == 8
  | c :: r =>
    if 8 ≤ count then false
    else if c = ':' then !squeezed && groupsFit (count + 1) true r
    else
      let g := group (c :: r)
      match h : (c :: r).drop g.length with
      | [] => squeezed || count + 1 == 8
      | '.' :: _ => !g.isEmpty && count ≤ 6 && isDotted (c :: r) && (squeezed || count + 2 == 8)
      | ':' :: r' => !r'.isEmpty && groupsFit (count + 1) squeezed r'
      | _ => false
termination_by cs => cs.length
decreasing_by
  · exact Nat.lt_succ_self _
  · have := congrArg List.length h
    simp only [List.length_drop, List.length_cons] at this ⊢
    omega

/-- Whether a text is an address of eight groups. -/
def isGroupAddress : List Char → Bool
  | ':' :: ':' :: r => groupsFit 1 true r
  | ':' :: _ => false
  | [] => false
  | [_] => false
  | cs => groupsFit 0 false cs

end ThreatModel.Url
