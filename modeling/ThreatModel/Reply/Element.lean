import ThreatModel.Json.Printer
import ThreatModel.Text.Search
import ThreatModel.Threat.Draft

/-!
# Elements of a reply

One element of the array in a reply is an untrusted value. If it is an object, `draftOf?` makes a
draft of it: each field has several spellings, values of a wrong kind count as missing, and missing
fields have defaults.
-/

namespace ThreatModel.Reply

/-- The title of a threat that has none. -/
def defaultTitle : String := "Untitled threat"

/-- The trust boundary of a threat that has none. -/
def defaultBoundary : String := "Internal Network"

/-- The category of a threat that has none. -/
def defaultCategory : Stride := .tampering

/-- The member under the first of some names that the object has; none if it is `null`. -/
def member? (names : List String) (x : Json) : Option Json :=
  match names.findSome? fun n => x.field? n with
  | some .null => none
  | found => found

/-- The text of a scalar without blanks around it; blank strings and structures have none. -/
def scalarText? : Json → Option String
  | .string s =>
    let t := Text.trimmed s
    if t.isEmpty then none else some t
  | .number n => some (String.ofList n.text)
  | .bool b => some (if b then "true" else "false")
  | _ => none

/-- The text of a member. -/
def text? (names : List String) (x : Json) : Option String := (member? names x).bind scalarText?

/-- The texts in an array, or the one text in a string. -/
def texts : Option Json → List String
  | some (.array xs) => xs.filterMap scalarText?
  | some (.string s) => (scalarText? (.string s)).toList
  | _ => []

/-- A mitigation: a string, or an object that holds a change of code or a text. -/
def mitigation? (x : Json) : Option Mitigation :=
  match x with
  | .string _ => (scalarText? x).map .prose
  | .object _ =>
    match text? ["file", "path"] x, text? ["original", "originalCode", "original_code"] x,
        text? ["fixed", "fixedCode", "fixed_code"] x with
    | some file, some before, some after => some (.code file before after)
    | _, _, _ => (text? ["text", "description", "mitigation"] x).map .prose
  | _ => none

/-- The mitigations in an array, or a single one. -/
def mitigations : Option Json → List Mitigation
  | some (.array xs) => xs.filterMap mitigation?
  | some x => (mitigation? x).toList
  | none => []

/-- Words that say that there is no entry. -/
def noneMarkers : List String := ["n/a", "na", "none", "null", "-"]

/-- The entry in a list of known vulnerabilities, unless the text says that there is none. -/
def cve? (x : Json) : Option String :=
  (text? ["cve", "CVE"] x).filter fun t => !noneMarkers.contains (Text.asciiLower t)

/-- The draft in an untrusted object. -/
def draftOfObject (x : Json) : Draft where
  title := (text? ["title", "name"] x).getD defaultTitle
  category :=
    ((text? ["strideCategory", "stride_category", "category", "stride"] x).bind Stride.parse?).getD
      defaultCategory
  source := (text? ["threatSource", "threat_source"] x).getD unspecified
  prerequisites := (text? ["prerequisites"] x).getD unspecified
  action := (text? ["threatAction", "threat_action"] x).getD unspecified
  consequence := (text? ["threatImpact", "threat_impact"] x).getD unspecified
  assets := texts (member? ["impactedAssets", "impacted_assets"] x)
  boundary := (text? ["trustBoundary", "trust_boundary"] x).getD defaultBoundary
  assumptions := texts (member? ["assumptions"] x)
  mitigations := mitigations (member? ["mitigations", "mitigation"] x)
  cve := cve? x
  likelihood :=
    .ofUntrusted (Json.orNull (member? ["likelihood", "likelihoodFactors", "likelihood_factors"] x))
  impact := .ofUntrusted (Json.orNull (member? ["impact", "impactFactors", "impact_factors"] x))
  suggestedSeverity := text? ["severity"] x

/-- The draft in an element, if it is an object. -/
def draftOf? : Json → Option Draft
  | .object ms => some (draftOfObject (.object ms))
  | _ => none

end ThreatModel.Reply
