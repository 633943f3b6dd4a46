import ThreatModel.Text.Hex

/-!
# Percent encoding

Bytes written as a percent sign and two hexadecimal digits. Text without a percent sign decodes to
itself (`decode?_of_no_percent`), and text of characters that are kept encodes to itself
(`encode_of_keep`).
-/

namespace ThreatModel.Url.Percent

/-- A byte, encoded. -/
def encodeByte (b : UInt8) : List Char :=
  ['%', Text.upperHexDigit (b.toNat / 16), Text.upperHexDigit (b.toNat % 16)]

/-- The text with every character encoded that is not to be kept. -/
def encode (keep : Char → Bool) (cs : List Char) : List Char :=
  cs.flatMap fun c => if keep c then [c] else (String.utf8EncodeChar c).flatMap encodeByte

/-- The bytes of a text in UTF-8, encoded ones decoded. -/
def bytes : List Char → List UInt8
  | '%' :: a :: b :: r =>
    match Text.hexValue? a, Text.hexValue? b with
    | some x, some y => UInt8.ofNat (16 * x + y) :: bytes r
    | _, _ => '%'.val.toUInt8 :: bytes (a :: b :: r)
  | c :: r => String.utf8EncodeChar c ++ bytes r
  | [] => []
termination_by cs => cs.length

/-- The decoded text, unless its bytes are none. -/
def decode? (cs : List Char) : Option (List Char) :=
  if cs.contains '%' then
    (String.fromUTF8? ⟨(bytes cs).toArray⟩).map (·.toList)
  else some cs

theorem decode?_of_no_percent {cs : List Char} (h : '%' ∉ cs) : decode? cs = some cs := by
  simp [decode?, h]

theorem encode_of_keep {keep : Char → Bool} {cs : List Char} (h : ∀ c ∈ cs, keep c = true) :
    encode keep cs = cs := by
  induction cs with
  | nil => rfl
  | cons c r ih =>
    simp only [List.mem_cons, forall_eq_or_imp] at h
    simp only [encode, List.flatMap_cons, h.1, ↓reduceIte, List.cons_append, List.nil_append]
    exact congrArg _ (ih h.2)

end ThreatModel.Url.Percent
