/-!
# Searching and splitting texts

Plain substring search, replacement and splitting over lists of characters, and the ASCII case
maps. `splitAt?_eq_some` says that a search splits the text in front of an occurrence.
-/

namespace ThreatModel.Text

/-! ### Occurrences -/

/-- The text in front of the first occurrence of `needle`, and the text from there on. -/
def splitAt? (needle : List Char) : List Char → Option (List Char × List Char)
  | [] => if needle.isEmpty then some ([], []) else none
  | c :: r =>
    if needle.isPrefixOf (c :: r) then some ([], c :: r)
    else (splitAt? needle r).map fun (a, b) => (c :: a, b)

theorem splitAt?_eq_some {needle cs a b : List Char} (h : splitAt? needle cs = some (a, b)) :
    a ++ b = cs ∧ needle <+: b := by
  induction cs generalizing a with
  | nil =>
    unfold splitAt? at h
    split at h <;> simp_all
  | cons c r ih =>
    unfold splitAt? at h
    split at h
    next hp =>
      simp only [Option.some.injEq, Prod.mk.injEq] at h
      obtain ⟨rfl, rfl⟩ := h
      exact ⟨rfl, List.isPrefixOf_iff_prefix.1 hp⟩
    next =>
      simp only [Option.map_eq_some_iff, Prod.mk.injEq, Prod.exists] at h
      obtain ⟨a', b', h', rfl, rfl⟩ := h
      obtain ⟨h₁, h₂⟩ := ih h'
      exact ⟨by simp [h₁], h₂⟩

/-- Whether a text holds another. -/
def holds (needle cs : List Char) : Bool := (splitAt? needle cs).isSome

/-- Whether a string holds another. -/
def contains (s needle : String) : Bool := holds needle.toList s.toList

/-- The part from the last occurrence of `needle` on, with the part in front of it. -/
def splitAtLast? (needle : List Char) : List Char → Option (List Char × List Char)
  | [] => if needle.isEmpty then some ([], []) else none
  | c :: r =>
    match splitAtLast? needle r with
    | some (a, b) => some (c :: a, b)
    | none => if needle.isPrefixOf (c :: r) then some ([], c :: r) else none

/-- Replaces `needle` (which must not be empty) wherever it stands, from left to right; `skip`
characters belong to an occurrence that has been replaced. -/
def replaceFrom (needle new : List Char) : (skip : Nat) → List Char → List Char
  | _, [] => []
  | skip + 1, _ :: r => replaceFrom needle new skip r
  | 0, c :: r =>
    if needle.isPrefixOf (c :: r) then new ++ replaceFrom needle new (needle.length - 1) r
    else c :: replaceFrom needle new 0 r

/-- Replaces every occurrence of `needle`, from left to right. -/
def replace (needle new cs : List Char) : List Char :=
  if needle.isEmpty then cs else replaceFrom needle new 0 cs

/-! ### Separators -/

/-- The parts between the separators. -/
def splitOn (sep : Char) : List Char → List (List Char)
  | [] => [[]]
  | c :: r =>
    if c = sep then [] :: splitOn sep r
    else match splitOn sep r with
      | [] => [[c]]
      | w :: ws => (c :: w) :: ws

/-- The parts in front of and behind the first separator. -/
def splitFirst? (sep : Char) : List Char → Option (List Char × List Char)
  | [] => none
  | c :: r => if c = sep then some ([], r) else (splitFirst? sep r).map fun (a, b) => (c :: a, b)

/-- The parts in front of and behind the last separator. -/
def splitLast? (sep : Char) (cs : List Char) : Option (List Char × List Char) :=
  (splitFirst? sep cs.reverse).map fun (a, b) => (b.reverse, a.reverse)

/-- What stands behind `lead` at the front of a text. -/
def afterLead? (lead : List Char) (cs : List Char) : Option (List Char) :=
  if lead.isPrefixOf cs then some (cs.drop lead.length) else none

/-- What stands in front of `tail` at the end of a text. -/
def beforeTail? (tail : List Char) (cs : List Char) : Option (List Char) :=
  if tail.isSuffixOf cs then some (cs.take (cs.length - tail.length)) else none

/-- Whether a text ends in another. -/
def endsWith (cs tail : List Char) : Bool := tail.isSuffixOf cs

/-! ### Letters of ASCII -/

/-- ASCII letters in lower case, everything else unchanged. -/
def asciiLower (s : String) : String := String.ofList (s.toList.map Char.toLower)

/-- The length of a text in bytes of UTF-8. -/
def utf8Length (cs : List Char) : Nat := cs.foldr (fun c n => c.utf8Size + n) 0

@[simp] theorem utf8Length_nil : utf8Length [] = 0 := rfl

@[simp] theorem utf8Length_cons (c : Char) (r : List Char) :
    utf8Length (c :: r) = c.utf8Size + utf8Length r := by
  simp [utf8Length]

@[simp] theorem utf8Length_append (a b : List Char) :
    utf8Length (a ++ b) = utf8Length a + utf8Length b := by
  induction a with
  | nil => simp
  | cons c a ih => simp [ih, Nat.add_assoc]

@[simp] theorem utf8Length_reverse (a : List Char) : utf8Length a.reverse = utf8Length a := by
  induction a with
  | nil => simp
  | cons c a ih => simp [ih, Nat.add_comm]

/-- Splits a text after a number of bytes; inside a character, in front of it. -/
def splitBytes : Nat → List Char → List Char × List Char
  | _, [] => ([], [])
  | n, c :: r =>
    if c.utf8Size ≤ n then
      let (a, b) := splitBytes (n - c.utf8Size) r
      (c :: a, b)
    else ([], c :: r)

end ThreatModel.Text
