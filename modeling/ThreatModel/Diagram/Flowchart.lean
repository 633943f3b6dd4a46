import ThreatModel.Architecture.Basic
import ThreatModel.Diagram.Label

/-!
# Flowcharts

An analysis drawn as a flowchart in Mermaid notation. The chart is a list of `Line`s, made by
`lines`; `Line.text` writes each of them. Nodes are numbered in the order of the components. Every
component is drawn once: inside the smallest boundary that names it, or in front of all boundaries.
-/

namespace ThreatModel.Diagram

/-- A node: the number of its component, its label and its kind. -/
structure Node where
  index : Nat
  label : String
  kind : ComponentKind
  deriving DecidableEq, Repr

/-- A line of a flowchart. -/
inductive Line where
  | header
  /-- A node outside of all boundaries. -/
  | node (n : Node)
  /-- The opening of a boundary. -/
  | openBoundary (index : Nat) (label : String)
  /-- A node inside a boundary. -/
  | innerNode (n : Node)
  /-- The end of a boundary. -/
  | closeBoundary
  /-- A flow between two nodes. -/
  | edge (source target : Nat) (label : String)
  /-- The style of the nodes of a kind. -/
  | style (kind : ComponentKind)
  /-- The nodes of a kind. -/
  | members (kind : ComponentKind) (nodes : List Nat)
  deriving DecidableEq, Repr

/-! ### Text -/

/-- The name of a node. -/
def nodeId (index : Nat) : String := s!"C{index}"

/-- The brackets around the quoted label of a node; their shape shows its kind. -/
def brackets : ComponentKind → String × String
  | .database => ("[(\"", "\")]")
  | .external => ("([\"", "\"])")
  | .queue => ("[[\"", "\"]]")
  | .gateway => ("\x7b\x7b\"", "\"\x7d\x7d")
  | _ => ("[\"", "\"]")

/-- The declaration of a node. -/
def Node.text (n : Node) : String :=
  nodeId n.index ++ (brackets n.kind).1 ++ n.label ++ (brackets n.kind).2

/-- The colours of the nodes of a kind. -/
def colours : ComponentKind → String
  | .api => "fill:#dbeafe,stroke:#1d4ed8,color:#1e3a8a"
  | .service => "fill:#e0e7ff,stroke:#4338ca,color:#312e81"
  | .database => "fill:#dcfce7,stroke:#15803d,color:#14532d"
  | .queue => "fill:#fef9c3,stroke:#a16207,color:#713f12"
  | .gateway => "fill:#fae8ff,stroke:#a21caf,color:#701a75"
  | .external => "fill:#fee2e2,stroke:#b91c1c,color:#7f1d1d"
  | .frontend => "fill:#cffafe,stroke:#0e7490,color:#164e63"
  | .config => "fill:#f3f4f6,stroke:#4b5563,color:#111827"

/-- A line as it is written. -/
def Line.text : Line → String
  | header => "flowchart TD"
  | node n => "    " ++ n.text
  | openBoundary i l => s!"    subgraph B{i} [\"{l}\"]"
  | innerNode n => "        " ++ n.text
  | closeBoundary => "    end"
  | edge a b l => "    " ++ nodeId a ++ " -->|\"" ++ l ++ "\"| " ++ nodeId b
  | style k => s!"    classDef {k.name} {colours k}"
  | members k is => "    class " ++ ",".intercalate (is.map nodeId) ++ " " ++ k.name

/-! ### Lines -/

variable (a : Analysis)

/-- The nodes in the order of the components. -/
def nodes : List Node :=
  a.components.zipIdx.map fun (c, i) => ⟨i, label c.name, c.kind⟩

/-- The number of the smallest boundary that names a component; of several the first. -/
def boundaryOf? (name : String) : Option Nat :=
  let named := a.trustBoundaries.zipIdx.filter fun (b, _) => b.components.contains name
  let smaller (best : Option (TrustBoundary × Nat)) (x : TrustBoundary × Nat) :=
    match best with
    | none => some x
    | some y => if x.1.components.length < y.1.components.length then some x else some y
  (named.foldl smaller none).map (·.2)

/-- The nodes of the components that are assigned to a boundary, or to none. -/
def nodesIn (boundary : Option Nat) : List Node :=
  (a.components.zip (nodes a)).filterMap fun (c, n) =>
    if boundaryOf? a c.name = boundary then some n else none

/-- The lines of a boundary. -/
def boundaryLines (b : TrustBoundary) (index : Nat) : List Line :=
  .openBoundary index (label b.name) :: (nodesIn a (some index)).map .innerNode ++ [.closeBoundary]

/-- The number of the first component of this name. -/
def indexOf? (name : String) : Option Nat := a.components.findIdx? fun c => c.name == name

/-- The line of a flow between known components. -/
def edge? (f : DataFlow) : Option Line := do
  return .edge (← indexOf? a f.source) (← indexOf? a f.target) (label f.label)

/-- The numbers of the components of a kind. -/
def indicesOf (kind : ComponentKind) : List Nat :=
  ((nodes a).filter fun n => n.kind == kind).map (·.index)

/-- The kinds of the components. -/
def usedKinds : List ComponentKind := ComponentKind.all.filter a.hasKind

/-- The lines of the flowchart. -/
def lines : List Line :=
  .header :: (nodesIn a none).map .node ++
    a.trustBoundaries.zipIdx.flatMap (fun (b, i) => boundaryLines a b i) ++
    a.validFlows.filterMap (edge? a) ++
    (usedKinds a).map .style ++
    (usedKinds a).map fun k => .members k (indicesOf a k)

/-- The flowchart, each line with a line break behind it. -/
def render : String := String.join ((lines a).map fun l => l.text ++ "\n")

end ThreatModel.Diagram
