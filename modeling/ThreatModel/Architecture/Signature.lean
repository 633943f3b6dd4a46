import ThreatModel.Pattern.Search
import ThreatModel.Source.File

/-!
# Signatures

What the parts of a system are recognized by: extensions of languages, words in paths, names of
libraries in texts, and the declarations of frameworks in manifests.
-/

namespace ThreatModel.Signature

open Pattern

/-! ### Tables -/

/-- Languages by the extension of their files. -/
def languages : List (String × String) :=
  [("js", "JavaScript"), ("jsx", "JavaScript"), ("mjs", "JavaScript"), ("cjs", "JavaScript"),
   ("ts", "TypeScript"), ("tsx", "TypeScript"), ("py", "Python"), ("rb", "Ruby"), ("go", "Go"),
   ("rs", "Rust"), ("java", "Java"), ("kt", "Kotlin"), ("scala", "Scala"), ("cs", "C#"),
   ("php", "PHP"), ("swift", "Swift"), ("c", "C"), ("h", "C"), ("cpp", "C++"), ("cc", "C++"),
   ("hpp", "C++"), ("vue", "Vue"), ("svelte", "Svelte"), ("ex", "Elixir"), ("exs", "Elixir"),
   ("sh", "Shell"), ("sql", "SQL")]

/-- The language of an extension. -/
def language? (ext : String) : Option String := languages.lookup ext

/-- Extensions of files for a browser. -/
def frontendExtensions : List String := ["js", "jsx", "ts", "tsx", "vue", "svelte", "html"]

/-- Extensions of prose. -/
def documentExtensions : List String := ["md", "markdown", "txt", "rst", "adoc"]

/-- Names, without extensions, of files at which programs start. -/
def entryStems : List String := ["main", "index", "app", "server", "wsgi", "asgi", "manage"]

/-- Names of files that configure infrastructure. -/
def infrastructureNames : List String :=
  ["Dockerfile", "docker-compose.yml", "docker-compose.yaml", "compose.yml", "compose.yaml",
   "Jenkinsfile", "Procfile", "Makefile", "Chart.yaml", "values.yaml", "kustomization.yaml",
   "serverless.yml", "app.yaml", ".gitlab-ci.yml", ".travis.yml", "vercel.json", "netlify.toml",
   "fly.toml"]

/-- Extensions of files that configure something if they stand in a directory for that. -/
def configExtensions : List String :=
  ["json", "yml", "yaml", "toml", "ini", "properties", "conf", "cfg", "env", "tf", "tfvars", "hcl"]

/-- Extensions of files that configure something wherever they stand. -/
def pureConfigExtensions : List String := ["tf", "tfvars", "hcl", "env"]

/-! ### Paths -/

/-- The front of a path or of one of its parts. -/
def partStart : Pattern := alt textStart (char '/')

/-- Words in any case, each with or without an `s` at its end. -/
def plurals (ss : List String) : List Pattern :=
  ss.map fun s => seq (litAnyCase s) (opt (litAnyCase "s"))

/-- Paths of code that answers requests. -/
def apiPath : Pattern := choice [
  seqs [partStart,
    choice (plurals ["route", "router", "controller"] ++ [litAnyCase "api"] ++
      plurals ["handler", "endpoint", "resolver"]),
    choice [char '/', char '.', textEnd]],
  seqs [partStart, litAnyCase "urls.py", textEnd]]

/-- Paths of code for a browser. -/
def frontendPath : Pattern := seqs [partStart,
  choice (plurals ["page", "view", "component", "screen", "layout", "template"]), char '/']

/-- Names of files about authentication. -/
def authName : Pattern :=
  litsAnyCase ["auth", "login", "passport", "session", "jwt", "oauth", "token"]

/-- Names of files about gateways. -/
def gatewayName : Pattern :=
  litsAnyCase ["gateway", "proxy", "middleware", "nginx", "kong", "envoy", "traefik", "ingress"]

/-- Paths of configuration. -/
def configPath : Pattern := seqs [partStart,
  litsAnyCase ["config", "configs", "conf", "settings", "deploy", "deployment", "k8s",
    "kubernetes", "helm", "terraform", "infra", ".github/workflows"],
  char '/']

/-- Whether a path is one of code that answers requests. -/
def isApiPath (path : String) : Bool := apiPath.occursInString path

/-- Whether a path is one of code for a browser. -/
def isFrontendPath (path : String) : Bool := frontendPath.occursInString path

/-- Whether a name is one of a file about authentication. -/
def isAuthName (name : String) : Bool := authName.occursInString name

/-- Whether a name is one of a file about gateways. -/
def isGatewayName (name : String) : Bool := gatewayName.occursInString name

/-- Whether a file configures something: by its name alone, by its extension, or by its extension
together with its name or its path. -/
def isConfigFile (path name : String) (ext? : Option String) : Bool :=
  infrastructureNames.contains name || name.startsWith "Dockerfile" ||
    name.startsWith "docker-compose" || name == ".env" || name.startsWith ".env." ||
    match ext? with
    | none => false
    | some ext =>
      pureConfigExtensions.contains ext ||
        (configExtensions.contains ext &&
          (["config", "settings"].contains (Text.asciiLower (SourceFile.stemOfName name)) ||
            configPath.occursInString path))

/-! ### Texts -/

/-- Libraries for databases. -/
def databaseLibrary : Pattern := choice [
  seqs [wordEdge,
    choice [litAnyCase "mongoose", litAnyCase "sequelize", litAnyCase "typeorm",
      litAnyCase "prisma", litAnyCase "knex", seq (litAnyCase "mysql") (opt (char '2')),
      litAnyCase "sqlite3", seq (litAnyCase "psycopg") (opt (char '2')), litAnyCase "sqlalchemy",
      litAnyCase "pymongo", litAnyCase "MongoClient", litAnyCase "gorm", litAnyCase "diesel",
      litAnyCase "sqlx", litAnyCase "jdbc", litAnyCase "ActiveRecord", litAnyCase "createPool",
      litAnyCase "redis"],
    wordEdge],
  seqs [litAnyCase "require(", blanks, quote, litAnyCase "pg", quote, blanks, char ')'],
  seqs [litAnyCase "from", someBlanks, quote, litAnyCase "pg", quote]]

/-- Libraries for message queues. -/
def queueLibrary : Pattern := seqs [wordEdge,
  litsAnyCase ["amqplib", "amqp", "rabbitmq", "kafkajs", "kafka", "bullmq", "celery", "sqs", "pika",
    "nats", "pubsub", "zeromq", "sidekiq", "lapin"],
  wordEdge]

/-- Whether a text names a library for databases. -/
def mentionsDatabase (text : String) : Bool := databaseLibrary.occursInString text

/-- Whether a text names a library for message queues. -/
def mentionsQueue (text : String) : Bool := queueLibrary.occursInString text

/-! ### Frameworks -/

/-- A framework: its name, the names of the manifests that declare it, and how they do. -/
structure Framework where
  name : String
  manifests : List String
  declaration : Pattern

/-- Manifests of the Node package manager. -/
def nodeManifests : List String := ["package.json"]

/-- Manifests of Python packages. -/
def pythonManifests : List String := ["requirements.txt", "pyproject.toml", "Pipfile", "setup.py"]

/-- Manifests of packages for the Java machine. -/
def javaManifests : List String := ["pom.xml", "build.gradle", "build.gradle.kts"]

/-- A quoted key and the colon behind it. -/
def jsonKey (key : String) : Pattern := seqs [char '"', lit key, char '"', blanks, char ':']

/-- A whole word in any case. -/
def wholeWord (s : String) : Pattern := seqs [wordEdge, litAnyCase s, wordEdge]

/-- A word at the front of a line. -/
def leadingWord (s : String) : Pattern := seqs [lineStart, blanks, lit s, wordEdge]

/-- The known frameworks. -/
def frameworks : List Framework :=
  [⟨"Express", nodeManifests, jsonKey "express"⟩,
   ⟨"React", nodeManifests, jsonKey "react"⟩,
   ⟨"Next.js", nodeManifests, jsonKey "next"⟩,
   ⟨"Vue", nodeManifests, jsonKey "vue"⟩,
   ⟨"Angular", nodeManifests, jsonKey "@angular/core"⟩,
   ⟨"NestJS", nodeManifests, jsonKey "@nestjs/core"⟩,
   ⟨"Fastify", nodeManifests, jsonKey "fastify"⟩,
   ⟨"Django", pythonManifests, wholeWord "django"⟩,
   ⟨"Flask", pythonManifests, wholeWord "flask"⟩,
   ⟨"FastAPI", pythonManifests, wholeWord "fastapi"⟩,
   ⟨"Spring", javaManifests, lits ["org.springframework", "spring-boot"]⟩,
   ⟨"Rails", ["Gemfile"], seqs [lit "gem", someBlanks, quote, lit "rails", quote]⟩,
   ⟨"Gin", ["go.mod"], lit "github.com/gin-gonic/gin"⟩,
   ⟨"Actix Web", ["Cargo.toml"], leadingWord "actix-web"⟩,
   ⟨"Axum", ["Cargo.toml"], leadingWord "axum"⟩,
   ⟨"Laravel", ["composer.json"], jsonKey "laravel/framework"⟩]

/-- The names of the frameworks that a manifest declares. -/
def declaredIn (name text : String) : List String :=
  (frameworks.filter fun f => f.manifests.contains name && f.declaration.occursInString text).map
    (·.name)

end ThreatModel.Signature
