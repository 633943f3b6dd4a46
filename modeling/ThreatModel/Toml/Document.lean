import ThreatModel.Toml.Lexeme
import ThreatModel.Toml.Scalar
import ThreatModel.Toml.Table

/-!
# TOML documents

A TOML text is read statement by statement, and the statements build up one table. `read?` gives
that table as a JSON object.
-/

namespace ThreatModel.Toml

open Text (Reader Rest Left)

/-! ### Values -/

/-- Whether a scalar ends in front of a character. -/
def endsScalar (c : Char) : Bool :=
  isBlank c || c == '\n' || c == '\r' || c == ',' || c == ']' || c == '\x7d' || c == '#'

/-- How many characters a scalar has: after a date, a blank may stand in front of the time. -/
def scalarLength (cs : List Char) : Nat :=
  let n := (cs.takeWhile (!endsScalar ·)).length
  match isDate (cs.take n), cs.drop n with
  | true, ' ' :: c :: r =>
    if c.isDigit then n + 1 + ((c :: r).takeWhile (!endsScalar ·)).length else n
  | _, _ => n

/-- The text behind so many characters. -/
def behind (n : Nat) (cs : List Char) : Left cs :=
  ⟨cs.drop n, by rw [List.length_drop]; exact Nat.sub_le cs.length n⟩

/-- A scalar. -/
def scalar : Reader Json := fun cs =>
  match cs with
  | [] => none
  | c :: r =>
    let n := scalarLength (c :: r)
    (scalar? ((c :: r).take n)).map fun v => (v, (behind (n - 1) r).rest)

/-- Items with commas between them, up to and with the closing character; a comma may stand behind
the last one. -/
def itemsUntil {α : Type} (close : Char) (item : Reader α) (cs : List Char) :
    Option (List α × Rest cs) :=
  match h : gap false cs with
  | none => none
  | some [] => none
  | some (c :: r) =>
    if c = close then some ([], ⟨r, length_lt_of_gap h⟩)
    else
      match item (c :: r) with
      | none => none
      | some (x, ⟨r₂, h₂⟩) =>
        match h' : gap false r₂ with
        | none => none
        | some [] => none
        | some (d :: r₃) =>
          have hlt : r₃.length < cs.length :=
            Nat.lt_trans (length_lt_of_gap h') (Nat.lt_of_lt_of_le h₂ (length_gap_le h))
          if d = ',' then
            (itemsUntil close item r₃).map fun (xs, t) => (x :: xs, t.ofLt hlt)
          else if d = close then some ([x], ⟨r₃, hlt⟩)
          else none
termination_by cs.length
decreasing_by exact hlt

/-- The nesting that a value may have, and the number of parts of a key. -/
def maxDepth : Nat := 80

/-- A key with not too many parts. -/
def shortKey (cs : List Char) : Option (List String × Rest cs) :=
  (key cs).filter fun k => k.1.length ≤ maxDepth

/-- A key, the sign behind it, and a value. -/
def pair (value : Reader Json) : Reader (List String × Json) := fun cs =>
  match shortKey cs with
  | none => none
  | some (ks, ⟨r, hr⟩) =>
    match h : blanks r with
    | '=' :: r₂ =>
      have hlt : (blanks r₂).length < cs.length :=
        Nat.lt_of_le_of_lt (length_blanks_le r₂) (Nat.lt_trans (length_lt_of_blanks h) hr)
      (value (blanks r₂)).map fun (v, t) => ((ks, v), t.ofLt hlt)
    | _ => none

/-- The object of pairs between braces. -/
def ofPairs? (ps : List (List String × Json)) : Option Json :=
  (ps.foldlM (fun es p => addValue p.1 p.2 es) []).map fun es => .object (entriesToJson es)

/-- A value that is no array and no table. -/
def atom : Reader Json := fun cs =>
  match cs with
  | '"' :: r => (string ('"' :: r)).map fun (s, t) => (.string s, t)
  | '\'' :: r => (string ('\'' :: r)).map fun (s, t) => (.string s, t)
  | cs => scalar cs

/-- A value whose arrays and tables are nested at most `depth` levels deep. -/
def value : (depth : Nat) → Reader Json
  | 0, cs => atom cs
  | depth + 1, cs =>
    match cs with
    | '[' :: r =>
      (itemsUntil ']' (value depth) r).map fun (xs, t) => (.array xs, t.behind)
    | '\x7b' :: r => do
      let (ps, t) ← itemsUntil '\x7d' (pair (value depth)) r
      return (← ofPairs? ps, t.behind)
    | cs => atom cs

/-! ### Statements -/

/-- A statement of a document. -/
inductive Statement where
  /-- A value under a key. -/
  | pair (key : List String) (v : Json)
  /-- The header of a table. -/
  | table (path : List String)
  /-- The header of a table in an array. -/
  | arrayItem (path : List String)

/-- The path in a header, behind its opening brackets and with so many closing ones. -/
def header (closing : List Char) (cs : List Char) : Option (List String × Rest cs) :=
  match shortKey (blanks cs) with
  | none => none
  | some (ks, ⟨r, hr⟩) =>
    if closing.isPrefixOf r then
      some (ks, ⟨(behind closing.length r).1, Nat.lt_of_le_of_lt (behind closing.length r).2
        (Nat.lt_of_lt_of_le hr (length_blanks_le cs))⟩)
    else none

/-- A statement without the end of its line. -/
def statement : Reader Statement := fun cs =>
  match cs with
  | '[' :: '[' :: r =>
    (header [']', ']'] r).map fun (ks, t) => (.arrayItem ks, t.behind.behind)
  | '[' :: r => (header [']'] r).map fun (ks, t) => (.table ks, t.behind)
  | cs => (pair (value maxDepth) cs).map fun ((ks, v), t) => (.pair ks v, t)

/-- The statements of a text. -/
def statements (cs : List Char) : Option (List Statement) :=
  match h : gap false cs with
  | none => none
  | some [] => some []
  | some (c :: r) =>
    match statement (c :: r) with
    | none => none
    | some (s, ⟨r₂, h₂⟩) =>
      match h' : lineEnd false r₂ with
      | none => none
      | some r₃ =>
        have : r₃.length < cs.length :=
          Nat.lt_of_le_of_lt (length_lineEnd_le h') (Nat.lt_of_lt_of_le h₂ (length_gap_le h))
        (statements r₃).map (s :: ·)
termination_by cs.length

/-! ### Documents -/

/-- What is known in the middle of a document: the table named last, and everything so far. -/
structure State where
  current : List String
  root : Entries

/-- What a statement adds. -/
def State.add (t : State) : Statement → Option State
  | .pair ks v => do
    return { t with root := ← follow false (fun _ => addValue ks v) .header t.current t.root }
  | .table path =>
    let (parent, key) := splitKey path
    do return ⟨path, ← follow false (fun _ => defineTable key) .header parent t.root⟩
  | .arrayItem path =>
    let (parent, key) := splitKey path
    do return ⟨path, ← follow false (fun _ => extendTables key) .header parent t.root⟩

/-- The table of a document, as an object. A byte-order mark may stand in front. -/
def read? (cs : List Char) : Option Json := do
  let cs := match cs with
    | '\uFEFF' :: r => r
    | r => r
  let t ← (← statements cs).foldlM State.add ⟨[], []⟩
  return .object (entriesToJson t.root)

end ThreatModel.Toml
