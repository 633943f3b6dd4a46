import ThreatModel.Pattern.Reader
import ThreatModel.Risk.Severity

/-!
# Detectors

A `Detector` is a pattern for one kind of weakness in code, with its severity, its number in the
list of common weaknesses, and a description. `Detector.registry` holds the built-in ones;
`Detector.ofRow?` makes one from a pattern text.
-/

namespace ThreatModel

/-- A pattern for one kind of weakness. -/
structure Detector where
  name : String
  severity : Severity
  /-- The number in the list of common weaknesses. -/
  cwe : String
  description : String
  pattern : Pattern

namespace Detector

open Pattern CharSet

/-- The characters of words and the hyphen. -/
def wordOrHyphen : CharSet := .union Text.isWord (among "-")

/-- A long literal: at least sixteen characters without quotes and blanks, between quotes. -/
def longLiteral : Pattern :=
  seqs [quote, atLeast 16 fun c => !(c == '"' || c == '\'' || Text.isBlank c), quote]

/-- Keywords of queries that read or change data. -/
def queryWords : List String := ["SELECT", "INSERT", "UPDATE", "DELETE"]

/-- The opening parenthesis of a call, blanks in front of it allowed. -/
def call : Pattern := seq blanks (char '(')

/-- Arguments of a call on the same line. -/
def arguments : Pattern := many (CharSet.except ")\n")

/-- An assignment of a Python constant to a name. -/
def setTo (name value : String) : Pattern := seqs [lit name, blanks, char '=', blanks, lit value]

/-- The name of the detector for literals in secrets. -/
def hardcodedSecretName : String := "hardcoded_secret"

/-- A long literal that is assigned to a name for a secret. -/
def hardcodedSecret : Detector where
  name := hardcodedSecretName
  severity := .critical
  cwe := "CWE-798"
  description := "Long literal assigned to a secret-named key"
  pattern := seqs [
    choice [
      seqs [litAnyCase "client", opt (Pattern.among "_-"), litAnyCase "secret"],
      litAnyCase "secret", litAnyCase "password", litAnyCase "passwd", litAnyCase "pwd",
      seqs [litAnyCase "api", opt (Pattern.among "_-"), litAnyCase "key"],
      seqs [litAnyCase "access", opt (Pattern.among "_-"), litAnyCase "key"],
      seqs [litAnyCase "auth", opt (Pattern.among "_-"), litAnyCase "token"],
      litAnyCase "token"],
    many wordOrHyphen, optQuote, blanks, Pattern.among ":=", blanks, longLiteral]

/-- The first line of a private key. -/
def privateKey : Detector where
  name := "private_key"
  severity := .critical
  cwe := "CWE-321"
  description := "Private key material committed to the repository"
  pattern := seqs [
    lit "-----BEGIN ", opt (lits ["RSA ", "EC ", "DSA ", "OPENSSH ", "ENCRYPTED "]),
    lit "PRIVATE KEY-----"]

/-- The capital letters and digits of access keys. -/
def isKeyChar : CharSet := fun c => c.isDigit || c.isUpper

/-- The id of an access key. -/
def awsAccessKey : Detector where
  name := "aws_access_key"
  severity := .critical
  cwe := "CWE-798"
  description := "AWS access key id in source"
  pattern := seqs [wordEdge, lit "AKIA", exactly 16 isKeyChar, wordEdge]

/-- A query that is put together from parts. -/
def sqlInjection : Detector where
  name := "sql_injection"
  severity := .high
  cwe := "CWE-89"
  description := "SQL query built by string concatenation or interpolation"
  pattern := choice [
    seqs [char '.', litsAnyCase ["query", "execute", "raw"], call, blanks, quote,
      many (CharSet.except "\"'\n"), quote, blanks, Pattern.among "+%"],
    seqs [Pattern.among "\"'`",
      choice [litAnyCase "SELECT", seqs [litAnyCase "INSERT", someBlanks, litAnyCase "INTO"],
        litAnyCase "UPDATE", seqs [litAnyCase "DELETE", someBlanks, litAnyCase "FROM"]],
      wordEdge, many (CharSet.except "\"'`\n"), Pattern.among "\"'`", blanks, char '+'],
    seqs [char '`', litsAnyCase queryWords, wordEdge, many (CharSet.except "`"), lit "$\x7b"],
    seqs [wordEdge, litAnyCase "f", quote, litsAnyCase queryWords, wordEdge],
    seqs [litAnyCase "format!", call, blanks, char '"', litsAnyCase queryWords, wordEdge]]

/-- A command for a shell that is put together from parts. -/
def commandInjection : Detector where
  name := "command_injection"
  severity := .critical
  cwe := "CWE-78"
  description := "Shell command built from dynamic input"
  pattern := choice [
    seqs [wordEdge, lit "exec", opt (lit "Sync"), call, arguments, char '+'],
    seqs [wordEdge, lit "os.system", call],
    seqs [wordEdge, lit "subprocess.", atLeast 1 Text.isWord, char '(', arguments,
      setTo "shell" "True"],
    seqs [lit "Runtime.getRuntime().exec", call],
    seqs [lit "Command::new", call, blanks, opt (char '&'), lit "format!"]]

/-- Code that is made at run time. -/
def codeEval : Detector where
  name := "code_eval"
  severity := .high
  cwe := "CWE-95"
  description := "Dynamic code evaluation"
  pattern := choice [
    seqs [wordEdge, lit "eval", call],
    seqs [wordEdge, lit "new", someBlanks, lit "Function", call]]

/-- Markup that is written without escaping. -/
def xss : Detector where
  name := "xss"
  severity := .high
  cwe := "CWE-79"
  description := "Unescaped HTML rendering"
  pattern := choice [
    seqs [lit ".innerHTML", blanks, char '='],
    lit "dangerouslySetInnerHTML",
    seqs [lit "document.write", call],
    seqs [wordEdge, lit "v-html", blanks, char '='],
    seqs [char '|', blanks, lit "safe", wordEdge],
    seqs [wordEdge, lit "mark_safe", call]]

/-- A cryptographic primitive that is weak. -/
def weakCrypto : Detector where
  name := "weak_crypto"
  severity := .medium
  cwe := "CWE-327"
  description := "Broken or weak cryptographic primitive"
  pattern := choice [
    seqs [lit "createHash", call, blanks, quote, lits ["md5", "sha1"], quote],
    seqs [lit "hashlib.", lits ["md5", "sha1"], call],
    seqs [lit "MessageDigest.getInstance", call, blanks, char '"',
      choice [lit "MD5", seqs [lit "SHA", opt (char '-'), char '1']], char '"'],
    seqs [wordEdge, lit "md5", call],
    seqs [lit "Cipher.getInstance", call, blanks, lit "\"DES"],
    seqs [wordEdge, lit "RC4", wordEdge]]

/-- Objects that are made from untrusted data. -/
def insecureDeserialization : Detector where
  name := "insecure_deserialization"
  severity := .high
  cwe := "CWE-502"
  description := "Deserialization of potentially untrusted data"
  pattern := choice [
    seqs [wordEdge, lit "pickle.load", opt (char 's'), call],
    seqs [wordEdge, lit "yaml.load", call],
    seqs [wordEdge, lit "ObjectInputStream", call],
    seqs [wordEdge, lit "unserialize", call],
    seqs [wordEdge, lit "Marshal.load", wordEdge],
    lit "node-serialize"]

/-- Certificates that are not checked. -/
def tlsVerificationDisabled : Detector where
  name := "tls_verification_disabled"
  severity := .high
  cwe := "CWE-295"
  description := "TLS certificate verification disabled"
  pattern := choice [
    seqs [lit "rejectUnauthorized", blanks, char ':', blanks, lit "false"],
    seqs [wordEdge, setTo "verify" "False"],
    seqs [lit "InsecureSkipVerify", blanks, char ':', blanks, lit "true"],
    seqs [lit "NODE_TLS_REJECT_UNAUTHORIZED", optQuote, blanks, Pattern.among "=:", blanks,
      optQuote, char '0'],
    seqs [lit "danger_accept_invalid_certs", call, blanks, lit "true"]]

/-- Requests that are allowed from anywhere. -/
def permissiveCors : Detector where
  name := "permissive_cors"
  severity := .medium
  cwe := "CWE-942"
  description := "CORS policy allows any origin"
  pattern := choice [
    seqs [lit "Access-Control-Allow-Origin", optQuote, blanks, Pattern.among ",:", blanks, quote,
      char '*'],
    seqs [wordEdge, lit "origin", blanks, char ':', blanks, quote, char '*', quote],
    setTo "CORS_ORIGIN_ALLOW_ALL" "True",
    seqs [lit "AllowAnyOrigin", call],
    seqs [lit "allow_origins", blanks, char '=', blanks, char '[', blanks, quote, char '*']]

/-- A path that comes from a request. -/
def pathTraversal : Detector where
  name := "path_traversal"
  severity := .high
  cwe := "CWE-22"
  description := "File path derived from request input"
  pattern := seqs [
    choice [seq (lit "readFile") (opt (lit "Sync")), lit "createReadStream", lit "sendFile",
      lit "open", lit "path.join"],
    call, arguments,
    choice [seq (lit "req.") (lits ["params", "query", "body"]),
      seq (lit "request.") (lits ["args", "GET", "POST", "form"])]]

/-- Signatures that are not checked. -/
def jwtNoneAlgorithm : Detector where
  name := "jwt_none_algorithm"
  severity := .high
  cwe := "CWE-347"
  description := "JWT signature verification disabled"
  pattern := choice [
    seqs [litAnyCase "algorithm", opt (litAnyCase "s"), blanks, Pattern.among ":=", blanks,
      opt (char '['), blanks, quote, litAnyCase "none", quote],
    seqs [lit "jwt.decode", call, arguments, setTo "verify" "False"],
    seqs [lit "verify_signature", optQuote, blanks, char ':', blanks, lit "False"]]

/-- A switch for debugging that is on. -/
def debugEnabled : Detector where
  name := "debug_enabled"
  severity := .low
  cwe := "CWE-489"
  description := "Debug mode enabled"
  pattern := choice [
    seqs [lineStart, blanks, setTo "DEBUG" "True", wordEdge],
    seqs [lit "app.run", call, arguments, setTo "debug" "True"]]

/-- The built-in detectors in their order. -/
def registry : List Detector :=
  [hardcodedSecret, privateKey, awsAccessKey, sqlInjection, commandInjection, codeEval, xss,
    weakCrypto, insecureDeserialization, tlsVerificationDisabled, permissiveCors, pathTraversal,
    jwtNoneAlgorithm, debugEnabled]

/-- The built-in detector of this name. -/
def find? (name : String) : Option Detector := registry.find? fun d => d.name == name

/-- A detector as data, with a pattern text. -/
structure Row where
  name : String
  pattern : String
  severity : Severity
  cwe : String
  description : String
  deriving DecidableEq, Repr

/-- The detector of a row, unless its pattern is refused. -/
def ofRow? (r : Row) : Option Detector :=
  (Pattern.ofText? r.pattern).map fun p => ⟨r.name, r.severity, r.cwe, r.description, p⟩

end Detector

end ThreatModel
