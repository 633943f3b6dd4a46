import ThreatModel.Idna.Direction
import ThreatModel.Idna.Joining
import ThreatModel.Idna.Mapping
import ThreatModel.Idna.Punycode
import ThreatModel.Idna.Repertoire

/-!
# Domain names in ASCII

A domain name of any characters is mapped, composed and split at the points into labels. A label in
ASCII stands for itself, or for the label that it encodes; any other label is encoded. Every label
has to be valid, and its ASCII form has to read back as the label (`decode?_of_ofUnicode?`).
-/

namespace ThreatModel.Idna

/-- A label of a domain name. -/
structure Label where
  /-- The characters that the label stands for. -/
  characters : List Char
  /-- The label in ASCII. -/
  ascii : List Char
  deriving DecidableEq, Repr

/-- Whether a text holds ASCII characters only. -/
def isAscii (cs : List Char) : Bool := cs.all (·.toNat < 0x80)

/-- A text with its characters mapped, and composed. -/
def prepare (cs : List Char) : List Char := Text.compose (cs.flatMap mapped)

/-- Whether a label is made of characters that a name may hold, each mapped to itself and in its
place. -/
def isValid (cs : List Char) : Bool :=
  prepare cs == cs && cs.all isAllowed && !cs.head?.any Text.isMark && joinersFit cs

namespace Label

/-- What an encoded label starts with. -/
def lead : List Char := "xn--".toList

/-- The number of characters that may be encoded in a label. -/
def maxCharacters : Nat := 1000

/-- The number of characters that may encode a label. -/
def maxEncoded : Nat := 2000

/-- A label in ASCII. -/
def ofAscii? (cs : List Char) : Option Label :=
  match Text.afterLead? lead cs with
  | none => if cs.all isAllowed then some ⟨cs, cs⟩ else none
  | some code =>
    if maxEncoded < code.length then none
    else (Punycode.decode? code).bind fun u =>
      if !isAscii u && isValid u then some ⟨u, cs⟩ else none

/-- A label with other characters. -/
def ofUnicode? (cs : List Char) : Option Label :=
  let code := Punycode.encode cs
  if cs.length ≤ maxCharacters && isValid cs && !lead.isPrefixOf cs &&
      Punycode.decode? code == some cs then
    some ⟨cs, lead ++ code⟩
  else none

/-- A label of a name that has been prepared. -/
def of? (cs : List Char) : Option Label := if isAscii cs then ofAscii? cs else ofUnicode? cs

theorem decode?_of_ofUnicode? {cs : List Char} {l : Label} (h : ofUnicode? cs = some l) :
    ∃ code, l.ascii = lead ++ code ∧ Punycode.decode? code = some l.characters := by
  unfold ofUnicode? at h
  simp only [Option.ite_none_right_eq_some, Bool.and_eq_true, beq_iff_eq, Option.some.injEq] at h
  obtain ⟨⟨-, hd⟩, rfl⟩ := h
  exact ⟨_, rfl, hd⟩

end Label

/-- A domain name in ASCII, unless it is not valid. -/
def toAscii? (cs : List Char) : Option (List Char) :=
  ((Text.splitOn '.' (prepare cs)).mapM Label.of?).bind fun labels =>
    if isOneWay (labels.map (·.characters)) then
      some (['.'].intercalate (labels.map (·.ascii)))
    else none

end ThreatModel.Idna
