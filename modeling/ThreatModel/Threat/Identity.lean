import ThreatModel.Digest.Sha256
import ThreatModel.Threat.Draft

/-!
# Identity of threats

What a threat is known by: its title, its category and its trust boundary. `Draft.identity` is the
text that stands for them, and `Draft.baseId` a short id made from the digest of that text.
-/

namespace ThreatModel

/-- The bytes of a text in UTF-8. -/
def utf8Bytes (s : String) : List UInt8 := s.toUTF8.toList

namespace Draft

/-- The text that identifies a threat. -/
def identity (d : Draft) : String := d.title ++ "|" ++ d.category.name ++ "|" ++ d.boundary

/-- The number of digits of the digest in an id. -/
def idDigits : Nat := 10

/-- The id of a threat: the first digits of the digest of its identity. -/
def baseId (d : Draft) : String :=
  "TM-" ++ String.ofList ((Digest.hexText (Digest.sha256 (utf8Bytes d.identity))).take idDigits)

end Draft

end ThreatModel
