import ThreatModel.Text.Hex
import ThreatModel.Text.Reader

/-!
# Blanks, strings and keys of TOML

What stands between the tokens of a TOML text, its four kinds of strings, and its keys. Skipping
never makes a text longer (`length_gap_le`, `length_blanks_le`).
-/

namespace ThreatModel.Toml

open Text (Reader Rest Left)

/-! ### Blanks and comments -/

/-- A blank inside a line. -/
def isBlank (c : Char) : Bool := c == ' ' || c == '\t'

/-- A character that may stand nowhere. -/
def isForbidden (c : Char) : Bool := (c.toNat < 32 && c != '\t') || c.toNat == 127

/-- The text without the blanks at its front. -/
def blanks (cs : List Char) : List Char := cs.dropWhile isBlank

/-- The text without blanks, line breaks and comments at its front; `inside` a comment, until its
end. -/
def gap (inside : Bool) : List Char → Option (List Char)
  | [] => some []
  | '\n' :: r => gap false r
  | '\r' :: '\n' :: r => gap false r
  | c :: r =>
    if inside then (if isForbidden c then none else gap true r)
    else if isBlank c then gap false r
    else if c = '#' then gap true r
    else some (c :: r)

/-- The text behind the end of a line, which may have blanks and a comment in front. -/
def lineEnd (inside : Bool) : List Char → Option (List Char)
  | [] => some []
  | '\n' :: r => some r
  | '\r' :: '\n' :: r => some r
  | c :: r =>
    if inside then (if isForbidden c then none else lineEnd true r)
    else if isBlank c then lineEnd false r
    else if c = '#' then lineEnd true r
    else none

theorem length_blanks_le (cs : List Char) : (blanks cs).length ≤ cs.length :=
  (List.dropWhile_suffix _).length_le

theorem length_lt_of_blanks {cs r : List Char} {c : Char} (h : blanks cs = c :: r) :
    r.length < cs.length := by
  have := length_blanks_le cs
  rw [h, List.length_cons] at this
  exact this

theorem length_gap_le {inside : Bool} {cs r : List Char} (h : gap inside cs = some r) :
    r.length ≤ cs.length := by
  fun_induction gap inside cs <;> simp_all <;> omega

theorem length_lt_of_gap {inside : Bool} {cs r : List Char} {c : Char}
    (h : gap inside cs = some (c :: r)) : r.length < cs.length := length_gap_le h

theorem length_lineEnd_le {inside : Bool} {cs r : List Char} (h : lineEnd inside cs = some r) :
    r.length ≤ cs.length := by
  fun_induction lineEnd inside cs <;> simp_all <;> omega

/-! ### Strings -/

/-- The character with this hexadecimal number. -/
def ofHex? (ds : List Char) : Option Char := do
  let n := (← ds.mapM Text.hexValue?).foldl (fun n d => 16 * n + d) 0
  if n.isValidChar then some (Char.ofNat n) else none

/-- What follows a backslash. -/
def escape : Reader Char
  | 'x' :: a :: b :: _ => (ofHex? [a, b]).map fun c => (c, Rest.tail.behind.behind)
  | 'u' :: a :: b :: c :: d :: _ =>
    (ofHex? [a, b, c, d]).map fun x => (x, Rest.tail.behind.behind.behind.behind)
  | 'U' :: a :: b :: c :: d :: e :: f :: g :: h :: _ =>
    (ofHex? [a, b, c, d, e, f, g, h]).map fun x =>
      (x, Rest.tail.behind.behind.behind.behind.behind.behind.behind.behind)
  | 'b' :: _ => some ('\x08', .tail)
  | 't' :: _ => some ('\t', .tail)
  | 'n' :: _ => some ('\n', .tail)
  | 'f' :: _ => some ('\x0c', .tail)
  | 'r' :: _ => some ('\r', .tail)
  | 'e' :: _ => some ('\x1b', .tail)
  | '"' :: _ => some ('"', .tail)
  | '\\' :: _ => some ('\\', .tail)
  | _ => none

/-- The rest of a string in double quotes after the opening one. -/
def basic (cs : List Char) : Option (List Char × Rest cs) :=
  match cs with
  | [] => none
  | '"' :: _ => some ([], .tail)
  | '\\' :: r =>
    match escape r with
    | none => none
    | some (c, ⟨r', h⟩) =>
      (basic r').map fun (s, t) => (c :: s, (t.ofLt h).behind)
  | c :: r =>
    if isForbidden c then none else (basic r).map fun (s, t) => (c :: s, t.behind)
termination_by cs.length
decreasing_by all_goals simp only [List.length_cons]; omega

/-- The rest of a string in single quotes after the opening one: nothing is escaped. -/
def verbatim : (cs : List Char) → Option (List Char × Rest cs)
  | [] => none
  | '\'' :: _ => some ([], .tail)
  | c :: r =>
    if isForbidden c then none else (verbatim r).map fun (s, t) => (c :: s, t.behind)

/-- What follows three closing quotes: up to two quotes more belong to the string. -/
def closing (quote : Char) (cs : List Char) : List Char × Left cs :=
  match cs with
  | a :: b :: r =>
    if a = quote && b = quote then ([quote, quote], (Left.all r).behind.behind)
    else if a = quote then ([quote], (Left.all (b :: r)).behind)
    else ([], .all (a :: b :: r))
  | [a] => if a = quote then ([quote], (Left.all []).behind) else ([], .all [a])
  | [] => ([], .all [])

/-- Whether nothing but blanks stands before the next line break. -/
def atLineEnd (cs : List Char) : Bool :=
  match blanks cs with
  | '\n' :: _ => true
  | '\r' :: '\n' :: _ => true
  | _ => false

/-- The text without blanks and line breaks at its front. -/
def unfold : List Char → List Char
  | '\n' :: r => unfold r
  | '\r' :: '\n' :: r => unfold r
  | c :: r => if isBlank c then unfold r else c :: r
  | [] => []

theorem length_unfold_le (cs : List Char) : (unfold cs).length ≤ cs.length := by
  fun_induction unfold cs <;> simp_all <;> omega

/-- The rest of a string of several lines in double quotes after the opening ones. A backslash at
the end of a line joins it with the next one. -/
def basicLines (cs : List Char) : Option (List Char × Rest cs) :=
  match cs with
  | [] => none
  | '"' :: '"' :: '"' :: r =>
    let (s, t) := closing '"' r
    some (s, t.rest.behind.behind)
  | '\r' :: '\n' :: r => (basicLines r).map fun (s, t) => ('\n' :: s, t.behind.behind)
  | '\n' :: r => (basicLines r).map fun (s, t) => ('\n' :: s, t.behind)
  | '\\' :: r =>
    if atLineEnd r then
      have hu := length_unfold_le r
      (basicLines (unfold r)).map fun (s, t) => (s, (t.within hu).behind)
    else
      match escape r with
      | none => none
      | some (c, ⟨r', h⟩) =>
        (basicLines r').map fun (s, t) => (c :: s, (t.ofLt h).behind)
  | c :: r =>
    if isForbidden c then none else (basicLines r).map fun (s, t) => (c :: s, t.behind)
termination_by cs.length
decreasing_by all_goals simp only [List.length_cons]; omega

/-- The rest of a string of several lines in single quotes after the opening ones. -/
def verbatimLines (cs : List Char) : Option (List Char × Rest cs) :=
  match cs with
  | [] => none
  | '\'' :: '\'' :: '\'' :: r =>
    let (s, t) := closing '\'' r
    some (s, t.rest.behind.behind)
  | '\r' :: '\n' :: r => (verbatimLines r).map fun (s, t) => ('\n' :: s, t.behind.behind)
  | '\n' :: r => (verbatimLines r).map fun (s, t) => ('\n' :: s, t.behind)
  | c :: r =>
    if isForbidden c then none else (verbatimLines r).map fun (s, t) => (c :: s, t.behind)
termination_by cs.length

/-- The text behind a line break at its front. -/
def afterBreak (cs : List Char) : Left cs :=
  match cs with
  | '\n' :: r => (Left.all r).behind
  | '\r' :: '\n' :: r => (Left.all r).behind.behind
  | r => .all r

/-- A string of any kind. -/
def string : Reader String := fun cs =>
  match cs with
  | '"' :: '"' :: '"' :: r =>
    (basicLines (afterBreak r).1).map fun (s, t) =>
      (String.ofList s, (t.within (afterBreak r).2).behind.behind.behind)
  | '"' :: r => (basic r).map fun (s, t) => (String.ofList s, t.behind)
  | '\'' :: '\'' :: '\'' :: r =>
    (verbatimLines (afterBreak r).1).map fun (s, t) =>
      (String.ofList s, (t.within (afterBreak r).2).behind.behind.behind)
  | '\'' :: r => (verbatim r).map fun (s, t) => (String.ofList s, t.behind)
  | _ => none

/-! ### Keys -/

/-- A character of a key without quotes. -/
def isKeyChar (c : Char) : Bool := c.isAlphanum || c == '-' || c == '_'

/-- The text behind the characters of a key at its front. -/
def behindKeyChars (cs : List Char) : Left cs :=
  ⟨cs.dropWhile isKeyChar, (List.dropWhile_suffix isKeyChar).length_le⟩

/-- One part of a key. -/
def simpleKey : Reader String := fun cs =>
  match cs with
  | '"' :: r => (basic r).map fun (s, t) => (String.ofList s, t.behind)
  | '\'' :: r => (verbatim r).map fun (s, t) => (String.ofList s, t.behind)
  | c :: r =>
    if isKeyChar c then
      some (String.ofList (c :: r.takeWhile isKeyChar), (behindKeyChars r).rest)
    else none
  | [] => none

/-- A key: parts with points between them. -/
def key (cs : List Char) : Option (List String × Rest cs) :=
  match simpleKey cs with
  | none => none
  | some (k, ⟨r, hr⟩) =>
    match h : blanks r with
    | '.' :: r' =>
      have hlt : (blanks r').length < cs.length :=
        Nat.lt_of_le_of_lt (length_blanks_le r') (Nat.lt_trans (length_lt_of_blanks h) hr)
      (key (blanks r')).map fun (ks, t) => (k :: ks, t.ofLt hlt)
    | _ => some ([k], ⟨blanks r, Nat.lt_of_le_of_lt (length_blanks_le r) hr⟩)
termination_by cs.length
decreasing_by exact hlt

end ThreatModel.Toml
