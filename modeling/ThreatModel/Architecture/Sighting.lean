import ThreatModel.Architecture.Basic
import ThreatModel.Architecture.Signature

/-!
# Sightings

A `Sighting` is what one file says about the architecture of its system: the categories of
components that it belongs to, its language, the frameworks that it declares, and whether programs
start at it. A design document gives one sighting too, made from the words in its text.
-/

namespace ThreatModel

/-- A category of components, each of which is recognized at most once in a system. -/
inductive Category where
  | frontend
  | gateway
  | api
  | auth
  | database
  | queue
  | config
  deriving DecidableEq, Repr, Inhabited

namespace Category

/-- All categories, in the order of their components. -/
def all : List Category := [frontend, gateway, api, auth, database, queue, config]

/-- The name of the component. -/
def componentName : Category → String
  | frontend => "Frontend"
  | gateway => "API Gateway"
  | api => "API Server"
  | auth => "Auth Service"
  | database => "Database"
  | queue => "Message Queue"
  | config => "Configuration"

/-- The kind of the component. -/
def kind : Category → ComponentKind
  | frontend => .frontend
  | gateway => .gateway
  | api => .api
  | auth => .service
  | database => .database
  | queue => .queue
  | config => .config

/-- The description of the component. -/
def description : Category → String
  | frontend => "User-facing pages, views and UI components"
  | gateway => "Gateway, proxy and middleware layer in front of the API"
  | api => "HTTP routes, controllers and request handlers"
  | auth => "Authentication and session handling"
  | database => "Persistent data store accessed through a database driver"
  | queue => "Message broker or background job queue"
  | config => "Infrastructure manifests and environment configuration"

theorem mem_all (c : Category) : c ∈ all := by
  cases c <;> simp [all]

theorem componentName_inj {a b : Category} (h : a.componentName = b.componentName) : a = b := by
  cases a <;> cases b <;> simp_all [componentName]

end Category

/-- What one file says about the architecture of its system. -/
structure Sighting where
  path : String
  /-- The language of a source file. -/
  language? : Option String
  categories : List Category
  /-- The names of the frameworks that it declares. -/
  frameworks : List String
  /-- Whether programs start at it. -/
  isEntry : Bool
  deriving DecidableEq, Repr, Inhabited

namespace Sighting

open Signature

/-- The part of a name in front of its first point, in lower case. -/
def stem (name : String) : String :=
  Text.asciiLower (String.ofList (name.toList.takeWhile (· != '.')))

/-- The sighting in a file. A file that cannot be read is judged by its path. -/
def ofFile (f : SourceFile) : Sighting :=
  let ext := f.extension?
  let language := ext.bind Signature.language?
  let isSource := language.isSome
  let isDocument := ext.any documentExtensions.contains
  let stem := stem f.name
  let inText (mentions : String → Bool) := (isSource || isDocument) && f.text?.any mentions
  let holds : Category → Bool
    | .api => isSource && isApiPath f.path
    | .frontend => ext.any frontendExtensions.contains && isFrontendPath f.path
    | .auth => isSource && isAuthName stem
    | .gateway => isGatewayName f.name && (isSource || ext.any configExtensions.contains)
    | .config => isConfigFile f.path f.name ext
    | .database => inText mentionsDatabase
    | .queue => inText mentionsQueue
  { path := f.path
    language? := language
    categories := Category.all.filter holds
    frameworks := match f.text? with
      | some text => declaredIn f.name text
      | none => []
    isEntry := holds .api || (isSource && entryStems.contains stem) }

/-- Words in a design document that speak of a category. -/
def documentWords : Category → List String
  | .frontend => ["frontend", "front-end", "web app", "single-page", "browser", "mobile app"]
  | .gateway => ["gateway", "reverse proxy", "load balancer", "nginx"]
  | .api => [" api", "endpoint", "rest", "graphql", "grpc"]
  | .auth => ["authentication", "login", "oauth", "sso", "jwt", "session"]
  | .database => ["database", "postgres", "mysql", "mongodb", "sql"]
  | .queue => ["queue", "kafka", "rabbitmq", "message broker", "pub/sub"]
  | .config => ["docker", "kubernetes", "terraform", "helm"]

/-- The sighting in a design document. -/
def ofDocument (name text : String) : Sighting :=
  let lower := Text.asciiLower text
  let named (c : Category) := (documentWords c).any (Text.contains lower)
  let holds : Category → Bool
    | .database => named .database || mentionsDatabase text
    | .queue => named .queue || mentionsQueue text
    | c => named c
  ⟨name, none, Category.all.filter holds, [], false⟩

end Sighting

end ThreatModel
