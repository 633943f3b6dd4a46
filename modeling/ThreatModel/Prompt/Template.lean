import ThreatModel.Text.Search

/-!
# The template of a prompt

A template is a text with a hole for every section, written as the name of the section in braces.
The sections are filled in one after another (`Template.fill`), so a later section is also filled in
where the text of an earlier one holds its name in braces.
-/

namespace ThreatModel.Prompt

/-- A section of the prompt that depends on what is analyzed. -/
inductive Section where
  | guidance
  | stack
  | components
  | flows
  | boundaries
  | entryPoints
  | findings
  | document
  deriving DecidableEq, Repr, Inhabited

namespace Section

/-- The name of a section. -/
def name : Section → String
  | guidance => "framework_guidance"
  | stack => "stack"
  | components => "components"
  | flows => "flows"
  | boundaries => "boundaries"
  | entryPoints => "entry_points"
  | findings => "findings"
  | document => "document"

/-- The sections in the order in which they are filled in. -/
def all : List Section :=
  [guidance, stack, components, flows, boundaries, entryPoints, findings, document]

/-- How the hole of a section is written. -/
def placeholder (s : Section) : List Char := '\x7b' :: (s.name.toList ++ ['\x7d'])

theorem mem_all (s : Section) : s ∈ all := by cases s <;> decide

end Section

/-- A part of a template. -/
inductive Part where
  | text (s : String)
  | hole (s : Section)
  deriving DecidableEq, Repr

/-- A text with holes. -/
abbrev Template := List Part

namespace Template

/-- A template as text. -/
def text (t : Template) : List Char :=
  t.flatMap fun
    | .text s => s.toList
    | .hole s => s.placeholder

/-- Fills in the sections one after another. -/
def fill (value : Section → List Char) (t : Template) : List Char :=
  Section.all.foldl (fun cs s => Text.replace s.placeholder (value s) cs) t.text

end Template

/-- The heading of the last part of the prompt. -/
def formatHeading : String := "# Output format"

/-- What a model is told about the form of its answer, line by line. -/
def formatLines : List String := [
  "Return a JSON array. Each element is an object with these keys:",
  "- \"title\": short threat name",
  "- \"strideCategory\": one of \"Spoofing\", \"Tampering\", \"Repudiation\", " ++
    "\"Information Disclosure\", \"Denial of Service\", \"Elevation of Privilege\"",
  "- \"threatSource\": who carries out the attack, e.g. \"unauthenticated remote attacker\"",
  "- \"prerequisites\": conditions the attacker needs, e.g. \"with network access to the API\"",
  "- \"threatAction\": what the attacker does",
  "- \"threatImpact\": the direct consequence",
  "- \"impactedAssets\": array of component or data names",
  "- \"trustBoundary\": the boundary crossed",
  "- \"assumptions\": array of strings",
  "- \"mitigations\": array; each item is a string, or an object " ++
    "\x7b\"file\", \"original\", \"fixed\"\x7d for a concrete code fix",
  "- \"cve\": related CVE identifier, or null",
  "- \"likelihood\": object with integer 0-9 values for skillLevel, motive, opportunity, " ++
    "size, easeOfDiscovery, easeOfExploit, awareness, intrusionDetection",
  "- \"impact\": object with integer 0-9 values for lossOfConfidentiality, lossOfIntegrity, " ++
    "lossOfAvailability, lossOfAccountability",
  "Do not include markdown fences or commentary outside the array."]

/-- The last part of the prompt below its heading. -/
def formatText : String := "\n" ++ String.join (formatLines.map (· ++ "\n"))

/-- The template of the prompt. -/
def template : Template := [
  .text "# Methodology\n", .hole .guidance,
  .text "\n\n# Languages and frameworks\n", .hole .stack,
  .text "\n\n# Components\n", .hole .components,
  .text "\n\n# Data flows\n", .hole .flows,
  .text "\n\n# Trust boundaries\n", .hole .boundaries,
  .text "\n\n# Entry points\n", .hole .entryPoints,
  .text "\n\n# Static-analysis findings\n", .hole .findings,
  .text "\n", .hole .document,
  .text "\n", .text formatHeading, .text formatText]

end ThreatModel.Prompt
