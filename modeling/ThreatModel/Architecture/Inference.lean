import ThreatModel.Architecture.Classification
import ThreatModel.Limits

/-!
# Inference of architectures

Data flows and trust boundaries follow from the components by fixed rules. `extract` puts an
analysis together for the files of a system and `extractDocument` for a design document.
-/

namespace ThreatModel

/-! ### Flows -/

/-- The components that the rules speak of, by name. -/
def hasNamed (cs : List Component) (name : String) : Bool := cs.any fun c => c.name == name

/-- A flow if its condition holds. -/
def flowIf (condition : Bool) (source target : String) (protocol : Option String)
    (dataType : String) : List DataFlow :=
  if condition then [⟨source, target, protocol, dataType⟩] else []

/-- The flow that brings requests into the system. -/
def entryFlow (cs : List Component) : List DataFlow :=
  let frontend := Category.frontend.componentName
  let gateway := Category.gateway.componentName
  let api := Category.api.componentName
  if hasNamed cs frontend && hasNamed cs api then [⟨frontend, api, some "HTTPS", "API requests"⟩]
  else if hasNamed cs gateway then [⟨endUser, gateway, some "HTTPS", "User requests"⟩]
  else if hasNamed cs api then [⟨endUser, api, some "HTTPS", "User requests"⟩]
  else flowIf (hasNamed cs fallbackService) endUser fallbackService (some "HTTPS") "User requests"

/-- The flows between components. -/
def inferFlows (cs : List Component) : List DataFlow :=
  let gateway := Category.gateway.componentName
  let api := Category.api.componentName
  let auth := Category.auth.componentName
  let database := Category.database.componentName
  let queue := Category.queue.componentName
  let both (a b : String) := hasNamed cs a && hasNamed cs b
  entryFlow cs ++
    flowIf (both gateway api) gateway api (some "HTTP") "Proxied requests" ++
    flowIf (both api auth) api auth none "Credentials and tokens" ++
    flowIf (both api database) api database (some "TCP") "Queries" ++
    flowIf (both auth database) auth database (some "TCP") "User records" ++
    flowIf (both api queue) api queue (some "AMQP") "Messages"

/-! ### Boundaries -/

/-- The name of the boundary around the system. -/
def internalBoundary : String := "Internal Network"

/-- The name of the boundary around its users. -/
def externalBoundary : String := "External / Internet"

/-- The name of the boundary around its configuration. -/
def infrastructureBoundary : String := "Infrastructure"

/-- The names of the components that a test accepts. -/
def namesWhere (test : Component → Bool) (cs : List Component) : List String :=
  (cs.filter test).map (·.name)

/-- The trust boundaries around components. -/
def inferBoundaries (cs : List Component) : List TrustBoundary :=
  let infrastructure := namesWhere (·.kind == .config) cs
  [⟨internalBoundary, namesWhere (·.kind != .external) cs⟩,
   ⟨externalBoundary, namesWhere (·.kind == .external) cs⟩] ++
    (if infrastructure.isEmpty then [] else [⟨infrastructureBoundary, infrastructure⟩])

/-! ### Analyses -/

/-- The classification of files. -/
def classify (files : List SourceFile) : Classification := files.map Sighting.ofFile

/-- The analysis of a system. -/
def extract (sources : SourceSet) (findings : List Finding) (limits : Limits) : Analysis :=
  let ss := classify sources.files
  let components := ss.components
  { languages := ss.languages
    frameworks := ss.frameworks
    components := components
    dataFlows := inferFlows components
    trustBoundaries := inferBoundaries components
    findings := findings
    fileTree := sources.paths.take limits.fileTreeCap
    entryPoints := ss.entryPoints.take limits.entryPointsCap
    truncated := sources.truncated }

/-- The analysis of a design document. -/
def extractDocument (name text : String) (findings : List Finding) : Analysis :=
  let components := Classification.components [Sighting.ofDocument name text]
  { languages := []
    frameworks := []
    components := components
    dataFlows := inferFlows components
    trustBoundaries := inferBoundaries components
    findings := findings
    fileTree := [name]
    entryPoints := []
    truncated := false }

end ThreatModel
