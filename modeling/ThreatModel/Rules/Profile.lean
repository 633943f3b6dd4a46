import ThreatModel.Architecture.Inference
import ThreatModel.Risk.Factor
import ThreatModel.Scan.Detector
import ThreatModel.Stride

/-!
# Profiles of findings

What threat a finding stands for. Every built-in detector has a `Profile`, and findings of any other
detector have the generic one (`Profile.forDetector`).
-/

namespace ThreatModel

/-! ### Usual factors -/

namespace Likelihood

/-- A weakness that can be used directly. -/
def direct : Likelihood := ⟨6, 9, 7, 9, 7, 7, 6, 8⟩

/-- A weakness that can be used from outside. -/
def remote : Likelihood := ⟨5, 8, 7, 9, 6, 6, 5, 7⟩

/-- A weakness that needs some access. -/
def moderate : Likelihood := ⟨4, 6, 5, 6, 5, 4, 4, 6⟩

/-- A weakness that is hard to use. -/
def low : Likelihood := ⟨3, 4, 4, 6, 4, 3, 3, 5⟩

end Likelihood

namespace Impact

/-- Loss of the whole system. -/
def severe : Impact := ⟨9, 7, 5, 7⟩

/-- Loss of much data. -/
def significant : Impact := ⟨6, 6, 4, 5⟩

/-- Loss of some data. -/
def moderate : Impact := ⟨5, 5, 4, 4⟩

/-- Loss of details. -/
def minor : Impact := ⟨3, 2, 2, 3⟩

end Impact

/-! ### Profiles -/

/-- The threat that the findings of a detector stand for. -/
structure Profile where
  /-- The name of the detector. -/
  detector : String
  title : String
  category : Stride
  source : String
  prerequisites : String
  action : String
  consequence : String
  /-- What is harmed. -/
  asset : String
  /-- The boundary concerned. -/
  boundary : String
  likelihood : Likelihood
  impact : Impact
  mitigation : String
  deriving DecidableEq, Repr

namespace Profile

/-- A secret in the code. -/
def hardcodedSecret : Profile where
  detector := Detector.hardcodedSecretName
  title := "Hardcoded credential"
  category := .informationDisclosure
  source := "malicious actor"
  prerequisites := "with read access to the source repository or a built artifact"
  action := "extract the embedded secret and reuse it against the backing service"
  consequence := "unauthorized access under the application's identity"
  asset := "Credentials"
  boundary := infrastructureBoundary
  likelihood := .direct
  impact := .severe
  mitigation :=
    "Move the secret to a secrets manager or environment variable and rotate the exposed " ++
      "value"

/-- A private key in the repository. -/
def privateKey : Profile where
  detector := "private_key"
  title := "Committed private key"
  category := .informationDisclosure
  source := "malicious actor"
  prerequisites := "with read access to the source repository"
  action := "use the committed private key to decrypt traffic or sign as the service"
  consequence := "loss of confidentiality and impersonation of the service"
  asset := "Key material"
  boundary := infrastructureBoundary
  likelihood := .direct
  impact := .severe
  mitigation :=
    "Remove the key from version control history, revoke it, and load keys from a secure " ++
      "store"

/-- A key for a cloud account in the code. -/
def awsAccessKey : Profile where
  detector := "aws_access_key"
  title := "Exposed cloud access key"
  category := .elevationOfPrivilege
  source := "malicious actor"
  prerequisites := "with read access to the source repository"
  action := "call cloud provider APIs with the leaked access key"
  consequence := "control over cloud resources granted to the key"
  asset := "Cloud account"
  boundary := infrastructureBoundary
  likelihood := .direct
  impact := .severe
  mitigation :=
    "Deactivate the key, audit its recent usage, and switch to short-lived role " ++
      "credentials"

/-- A query put together from input. -/
def sqlInjection : Profile where
  detector := "sql_injection"
  title := "SQL injection"
  category := .tampering
  source := "remote attacker"
  prerequisites := "who can reach the affected endpoint"
  action := "inject SQL through input concatenated into a query"
  consequence := "reading or modifying arbitrary database records"
  asset := "Database records"
  boundary := externalBoundary
  likelihood := .remote
  impact := .significant
  mitigation :=
    "Use parameterized queries or a query builder for every statement that includes user " ++
      "input"

/-- A shell command put together from input. -/
def commandInjection : Profile where
  detector := "command_injection"
  title := "OS command injection"
  category := .elevationOfPrivilege
  source := "remote attacker"
  prerequisites := "who controls input passed to a shell command"
  action := "execute arbitrary operating system commands"
  consequence := "full compromise of the host running the service"
  asset := "Application host"
  boundary := externalBoundary
  likelihood := .direct
  impact := .severe
  mitigation :=
    "Avoid shell invocation; pass arguments as an array to a fixed executable and validate " ++
      "them against an allow-list"

/-- Code put together from input. -/
def codeEval : Profile where
  detector := "code_eval"
  title := "Dynamic code evaluation"
  category := .elevationOfPrivilege
  source := "remote attacker"
  prerequisites := "who influences the evaluated expression"
  action := "run injected code inside the application runtime"
  consequence := "arbitrary code execution with the service's privileges"
  asset := "Application runtime"
  boundary := externalBoundary
  likelihood := .remote
  impact := .significant
  mitigation := "Replace dynamic evaluation with explicit parsing or a dispatch table"

/-- Markup put together from input. -/
def xss : Profile where
  detector := "xss"
  title := "Cross-site scripting"
  category := .tampering
  source := "remote attacker"
  prerequisites := "who can store or reflect content rendered to other users"
  action := "inject script into pages viewed by other users"
  consequence := "session theft and actions performed as the victim"
  asset := "User sessions"
  boundary := externalBoundary
  likelihood := .remote
  impact := .significant
  mitigation :=
    "Render untrusted content through context-aware escaping and set a restrictive " ++
      "Content-Security-Policy"

/-- A weak algorithm. -/
def weakCrypto : Profile where
  detector := "weak_crypto"
  title := "Weak cryptographic primitive"
  category := .informationDisclosure
  source := "attacker"
  prerequisites := "with access to hashed or encrypted data"
  action := "break the weak algorithm offline"
  consequence := "recovery of protected values such as passwords"
  asset := "Protected data"
  boundary := internalBoundary
  likelihood := .moderate
  impact := .moderate
  mitigation :=
    "Use a modern algorithm (SHA-256 or better for integrity, Argon2 or bcrypt for " ++
      "passwords, AES-GCM for encryption)"

/-- Objects made from input. -/
def insecureDeserialization : Profile where
  detector := "insecure_deserialization"
  title := "Insecure deserialization"
  category := .elevationOfPrivilege
  source := "remote attacker"
  prerequisites := "who can supply serialized data"
  action := "craft a payload that executes code during deserialization"
  consequence := "arbitrary code execution in the service"
  asset := "Application runtime"
  boundary := externalBoundary
  likelihood := .remote
  impact := .significant
  mitigation :=
    "Deserialize untrusted input only with data-only formats such as JSON and a safe " ++
      "loader"

/-- Certificates that are not checked. -/
def tlsVerificationDisabled : Profile where
  detector := "tls_verification_disabled"
  title := "Disabled TLS verification"
  category := .spoofing
  source := "network attacker"
  prerequisites := "positioned between the service and its upstream"
  action := "impersonate the upstream server with an untrusted certificate"
  consequence := "interception and modification of outbound traffic"
  asset := "Outbound connections"
  boundary := externalBoundary
  likelihood := .remote
  impact := .significant
  mitigation :=
    "Keep certificate verification enabled and pin a private CA bundle where one is " ++
      "needed"

/-- Requests allowed from anywhere. -/
def permissiveCors : Profile where
  detector := "permissive_cors"
  title := "Permissive CORS policy"
  category := .informationDisclosure
  source := "malicious website"
  prerequisites := "visited by an authenticated user"
  action := "issue cross-origin requests and read the responses"
  consequence := "disclosure of data the user can access"
  asset := "API responses"
  boundary := externalBoundary
  likelihood := .moderate
  impact := .moderate
  mitigation := "Restrict allowed origins to an explicit list of trusted hosts"

/-- A path put together from input. -/
def pathTraversal : Profile where
  detector := "path_traversal"
  title := "Path traversal"
  category := .informationDisclosure
  source := "remote attacker"
  prerequisites := "who controls part of a file path"
  action := "read files outside the intended directory"
  consequence := "disclosure of configuration, source or credentials on disk"
  asset := "Server filesystem"
  boundary := externalBoundary
  likelihood := .remote
  impact := .significant
  mitigation := "Canonicalize requested paths and reject any that resolve outside the allowed root"

/-- Signatures that are not checked. -/
def jwtNoneAlgorithm : Profile where
  detector := "jwt_none_algorithm"
  title := "Unsigned JWT accepted"
  category := .spoofing
  source := "remote attacker"
  prerequisites := "who can present a token"
  action := "forge a token signed with the none algorithm"
  consequence := "authentication as any user"
  asset := "User accounts"
  boundary := externalBoundary
  likelihood := .remote
  impact := .significant
  mitigation := "Pin the accepted signing algorithms when verifying tokens"

/-- Debugging that is on. -/
def debugEnabled : Profile where
  detector := "debug_enabled"
  title := "Debug mode enabled"
  category := .informationDisclosure
  source := "remote attacker"
  prerequisites := "who can trigger an error"
  action := "read stack traces and internal state from debug output"
  consequence := "disclosure of implementation details that aid further attacks"
  asset := "Application internals"
  boundary := externalBoundary
  likelihood := .low
  impact := .minor
  mitigation := "Disable debug mode in production builds and configuration"

/-- Anything else. -/
def generic : Profile where
  detector := ""
  title := "Security weakness"
  category := .tampering
  source := "attacker"
  prerequisites := "who can reach the affected code path"
  action := "exploit the flagged weakness"
  consequence := "compromise of the affected component"
  asset := "Application"
  boundary := internalBoundary
  likelihood := .moderate
  impact := .moderate
  mitigation := "Review the flagged code and apply the appropriate secure coding fix"

/-- The profiles of the built-in detectors. -/
def all : List Profile :=
  [hardcodedSecret, privateKey, awsAccessKey, sqlInjection, commandInjection, codeEval, xss,
    weakCrypto, insecureDeserialization, tlsVerificationDisabled, permissiveCors, pathTraversal,
    jwtNoneAlgorithm, debugEnabled]

/-- The profile for findings of a detector. -/
def forDetector (name : String) : Profile :=
  (all.find? fun p => p.detector == name).getD generic

end Profile

end ThreatModel
