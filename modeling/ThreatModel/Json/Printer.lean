import ThreatModel.Json.Basic
import ThreatModel.Number.Decimal
import ThreatModel.Text.Hex

/-!
# Printing JSON

`Json.compact` prints a value without blanks, `Json.pretty` with one item or member a line and two
spaces of indentation a level. Members are printed in the order in which the value holds them.
-/

namespace ThreatModel.Json

/-! ### Numbers -/

/-- Zeros. -/
def zeros (n : Nat) : List Char := List.replicate n '0'

/-- A nonzero decimal `digits · 10 ^ exponent`. Positional while the point stands at most sixteen
digits to the right or four zeros to the left of the first digit, and then with at least one
digit after the point; otherwise one digit before the point and an exponent
with its sign. -/
def decimalText (digits : Nat) (exponent : Int) : List Char :=
  let ds := digitText digits
  let point : Int := ds.length + exponent
  if 0 ≤ exponent && point ≤ 16 then ds ++ zeros exponent.toNat ++ ['.', '0']
  else if 0 < point && point ≤ 16 then ds.take point.toNat ++ '.' :: ds.drop point.toNat
  else if -5 < point && point ≤ 0 then '0' :: '.' :: (zeros (-point).toNat ++ ds)
  else
    let e := point - 1
    let eText := 'e' :: (if e < 0 then '-' else '+') :: digitText e.natAbs
    match ds with
    | [d] => d :: eText
    | d :: r => d :: '.' :: (r ++ eText)
    | [] => eText

/-- A double, with the fewest digits that read back; what is no number is `null`. -/
def doubleText : Binary → List Char
  | .finite s m e =>
    let (d, k) := Precision.double.shortest m e
    (if s then ['-'] else []) ++ (if m = 0 then ['0', '.', '0'] else decimalText d k)
  | _ => ['n', 'u', 'l', 'l']

/-- An integer. -/
def intText (n : Int) : List Char := (if n < 0 then ['-'] else []) ++ digitText n.natAbs

/-- A number. -/
def Number.text : Number → List Char
  | .integer n => intText n
  | .double x => doubleText x

/-! ### Strings -/

/-- A character inside a string literal. -/
def escaped (c : Char) : List Char :=
  match c with
  | '"' => ['\\', '"']
  | '\\' => ['\\', '\\']
  | '\x08' => ['\\', 'b']
  | '\x0c' => ['\\', 'f']
  | '\n' => ['\\', 'n']
  | '\r' => ['\\', 'r']
  | '\t' => ['\\', 't']
  | c =>
    if c.toNat < 32 then
      ['\\', 'u', '0', '0', Text.hexDigit (c.toNat / 16), Text.hexDigit (c.toNat % 16)]
    else [c]

/-- A string literal. -/
def quoted (s : String) : List Char := '"' :: (s.toList.flatMap escaped ++ ['"'])

/-! ### Values -/

/-- Texts with a separator between them. -/
def between (sep : List Char) : List (List Char) → List Char
  | [] => []
  | [x] => x
  | x :: xs => x ++ sep ++ between sep xs

mutual

/-- A value without blanks. -/
def compact : Json → List Char
  | .null => ['n', 'u', 'l', 'l']
  | .bool true => ['t', 'r', 'u', 'e']
  | .bool false => ['f', 'a', 'l', 's', 'e']
  | .number n => n.text
  | .string s => quoted s
  | .array xs => '[' :: (between [','] (compactItems xs) ++ [']'])
  | .object ms => '\x7b' :: (between [','] (compactMembers ms) ++ ['\x7d'])

/-- The items of an array without blanks. -/
def compactItems : List Json → List (List Char)
  | [] => []
  | x :: xs => compact x :: compactItems xs

/-- The members of an object without blanks. -/
def compactMembers : List (String × Json) → List (List Char)
  | [] => []
  | (k, x) :: ms => (quoted k ++ ':' :: compact x) :: compactMembers ms

end

/-- The line break before something at a level. -/
def newline (level : Nat) : List Char := '\n' :: List.replicate (2 * level) ' '

/-- Lines at a level, each with a comma after it but the last, inside brackets of the level
above. -/
def block (opening closing : Char) (level : Nat) : List (List Char) → List Char
  | [] => [opening, closing]
  | xs =>
    opening :: (newline (level + 1) ++ between (',' :: newline (level + 1)) xs ++ newline level ++
      [closing])

mutual

/-- A value on indented lines; `level` is the level of its last line. -/
def prettyAt (level : Nat) : Json → List Char
  | .array xs => block '[' ']' level (prettyItems level xs)
  | .object ms => block '\x7b' '\x7d' level (prettyMembers level ms)
  | .null => ['n', 'u', 'l', 'l']
  | .bool true => ['t', 'r', 'u', 'e']
  | .bool false => ['f', 'a', 'l', 's', 'e']
  | .number n => n.text
  | .string s => quoted s

/-- The items of an array at the level above. -/
def prettyItems (level : Nat) : List Json → List (List Char)
  | [] => []
  | x :: xs => prettyAt (level + 1) x :: prettyItems level xs

/-- The members of an object at the level above. -/
def prettyMembers (level : Nat) : List (String × Json) → List (List Char)
  | [] => []
  | (k, x) :: ms => (quoted k ++ ':' :: ' ' :: prettyAt (level + 1) x) :: prettyMembers level ms

end

/-- A value on indented lines. -/
def pretty (x : Json) : List Char := prettyAt 0 x

end ThreatModel.Json
