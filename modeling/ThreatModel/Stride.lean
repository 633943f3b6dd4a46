/-!
# Threat categories

The six STRIDE categories, their names, the lenient reading of a category, and what is usually done
against each.
-/

namespace ThreatModel

/-- A STRIDE category. -/
inductive Stride where
  /-- Pretending to be something or someone else. -/
  | spoofing
  /-- Modifying data or code. -/
  | tampering
  /-- Denying to have performed an action. -/
  | repudiation
  /-- Exposing information to those who may not have it. -/
  | informationDisclosure
  /-- Making a system unavailable. -/
  | denialOfService
  /-- Gaining capabilities without authorization. -/
  | elevationOfPrivilege
  deriving DecidableEq, Repr, Inhabited

namespace Stride

/-- The name. -/
def name : Stride → String
  | spoofing => "Spoofing"
  | tampering => "Tampering"
  | repudiation => "Repudiation"
  | informationDisclosure => "Information Disclosure"
  | denialOfService => "Denial of Service"
  | elevationOfPrivilege => "Elevation of Privilege"

/-- All categories, in the order of the acronym. -/
def all : List Stride :=
  [spoofing, tampering, repudiation, informationDisclosure, denialOfService, elevationOfPrivilege]

/-- The category of exactly this name. -/
def ofName? (s : String) : Option Stride := all.find? fun x => x.name == s

@[simp] theorem ofName?_name (c : Stride) : ofName? c.name = some c := by cases c <;> decide

/-- The letters and digits of ASCII in a text, in lower case. -/
def key (s : String) : String :=
  String.ofList ((s.toList.filter Char.isAlphanum).map Char.toLower)

/-- Reads a category: case and everything but letters and digits are ignored, and the letters of
the acronym stand for their categories. -/
def parse? (s : String) : Option Stride :=
  match key s with
  | "spoofing" | "s" => some spoofing
  | "tampering" | "t" => some tampering
  | "repudiation" | "r" => some repudiation
  | "informationdisclosure" | "i" => some informationDisclosure
  | "denialofservice" | "dos" | "d" => some denialOfService
  | "elevationofprivilege" | "e" => some elevationOfPrivilege
  | _ => none

/-- What is usually done against threats of a category. -/
def mitigations : Stride → List String
  | spoofing =>
    ["Require strong authentication (MFA) on every externally reachable entry point",
      "Issue short-lived session tokens and validate them server-side"]
  | tampering =>
    ["Validate and canonicalize all input at the trust boundary",
      "Protect message integrity with signatures or MACs"]
  | repudiation =>
    ["Write tamper-evident audit logs for security-relevant actions",
      "Record actor identity and timestamps with every state change"]
  | informationDisclosure =>
    ["Encrypt sensitive data at rest and in transit (TLS)",
      "Apply least-privilege access control lists to data stores"]
  | denialOfService =>
    ["Apply rate limiting and request size limits at the edge",
      "Set resource quotas and timeouts on expensive operations"]
  | elevationOfPrivilege =>
    ["Enforce role-based access control on every privileged operation",
      "Run components with least privilege and sandbox untrusted execution"]

@[simp] theorem parse?_name (c : Stride) : parse? c.name = some c := by
  cases c <;> decide +kernel

theorem mem_all (c : Stride) : c ∈ all := by
  cases c <;> simp [all]

theorem name_inj {a b : Stride} (h : a.name = b.name) : a = b := by
  cases a <;> cases b <;> simp_all [name]

end Stride

end ThreatModel
