import ThreatModel.Architecture.Basic
import ThreatModel.Architecture.Classification
import ThreatModel.Architecture.Inference
import ThreatModel.Architecture.Json
import ThreatModel.Architecture.Sighting
import ThreatModel.Architecture.Signature
import ThreatModel.Chat.Client
import ThreatModel.Chat.Error
import ThreatModel.Chat.Message
import ThreatModel.Chat.Response
import ThreatModel.Chat.Retry
import ThreatModel.CommandLine.Arguments
import ThreatModel.CommandLine.MemoryWorld
import ThreatModel.CommandLine.Run
import ThreatModel.CommandLine.Settings
import ThreatModel.Config.Basic
import ThreatModel.Config.Json
import ThreatModel.Config.Load
import ThreatModel.Diagram.Flowchart
import ThreatModel.Diagram.Label
import ThreatModel.Digest.Sha256
import ThreatModel.Failure
import ThreatModel.Idna.Direction
import ThreatModel.Idna.Joining
import ThreatModel.Idna.Mapping
import ThreatModel.Idna.Name
import ThreatModel.Idna.Punycode
import ThreatModel.Idna.Repertoire
import ThreatModel.Json.Basic
import ThreatModel.Json.Printer
import ThreatModel.Json.Reader
import ThreatModel.Json.Record
import ThreatModel.Json.Strict
import ThreatModel.Json.Tree
import ThreatModel.Limits
import ThreatModel.LogText
import ThreatModel.Main
import ThreatModel.Methodology
import ThreatModel.Number.Binary
import ThreatModel.Number.Decimal
import ThreatModel.Number.Rounding
import ThreatModel.Number.Word
import ThreatModel.Pattern.Basic
import ThreatModel.Pattern.Reader
import ThreatModel.Pattern.Search
import ThreatModel.Pipeline
import ThreatModel.Prompt.Request
import ThreatModel.Prompt.Template
import ThreatModel.Proofs.Diagram.Blocks
import ThreatModel.Proofs.Diagram.Graph
import ThreatModel.Proofs.Diagram.Label
import ThreatModel.Proofs.Diagram.Lines
import ThreatModel.Proofs.Diagram.Placement
import ThreatModel.Proofs.Diagram.Reading
import ThreatModel.Proofs.Diagram.Rows
import ThreatModel.Proofs.Diagram.WellFormed
import ThreatModel.Proofs.Json.ArrayText
import ThreatModel.Proofs.Json.Grammar
import ThreatModel.Proofs.Json.Scalar
import ThreatModel.Proofs.List.KeySort
import ThreatModel.Proofs.Number.Monotone
import ThreatModel.Proofs.Number.Value
import ThreatModel.Proofs.Reply.Bare
import ThreatModel.Proofs.Reply.Block
import ThreatModel.Proofs.Reply.Cut
import ThreatModel.Proofs.Reply.Hiding
import ThreatModel.Proofs.Reply.Opener
import ThreatModel.Proofs.Reply.Quiet
import ThreatModel.Proofs.Reply.Recovery
import ThreatModel.Proofs.Reply.Surroundings
import ThreatModel.Proofs.Reply.Truncation
import ThreatModel.Proofs.Reply.WellFormed
import ThreatModel.Proofs.Risk.Dominance
import ThreatModel.Proofs.Risk.Score
import ThreatModel.Proofs.Rules.Attribution
import ThreatModel.Proofs.Rules.Coverage
import ThreatModel.Proofs.Rules.References
import ThreatModel.Proofs.Rules.WellFormed
import ThreatModel.Proofs.Scan.Files
import ThreatModel.Proofs.Scan.Places
import ThreatModel.Proofs.Source.Listing
import ThreatModel.Proofs.Source.Walk
import ThreatModel.Proofs.Synthesis.WellFormed
import ThreatModel.Proofs.Text.Bytes
import ThreatModel.Proofs.Text.Splitting
import ThreatModel.Proofs.Threat.Dominance
import ThreatModel.Proofs.Threat.Emission
import ThreatModel.Proofs.Threat.Ids
import ThreatModel.Proofs.Threat.Order
import ThreatModel.Proofs.Threat.Records
import ThreatModel.Proofs.Threat.Suggestion
import ThreatModel.Proofs.Threat.WellFormed
import ThreatModel.Reply.Array
import ThreatModel.Reply.Element
import ThreatModel.Reply.Fence
import ThreatModel.Reply.Literal
import ThreatModel.Reply.Threats
import ThreatModel.Report.Basic
import ThreatModel.Report.Instant
import ThreatModel.Report.Render
import ThreatModel.Risk.Factor
import ThreatModel.Risk.Json
import ThreatModel.Risk.Rating
import ThreatModel.Risk.Severity
import ThreatModel.Rules.Profile
import ThreatModel.Rules.SecretFix
import ThreatModel.Rules.Threats
import ThreatModel.Scan.Detector
import ThreatModel.Scan.Scanner
import ThreatModel.Source.Access
import ThreatModel.Source.Error
import ThreatModel.Source.File
import ThreatModel.Source.Locator
import ThreatModel.Source.Repository
import ThreatModel.Source.Tree
import ThreatModel.Source.Walk
import ThreatModel.Stride
import ThreatModel.Synthesis.Origin
import ThreatModel.Synthesis.Synthesizer
import ThreatModel.Text.Blank
import ThreatModel.Text.Compose
import ThreatModel.Text.Cursor
import ThreatModel.Text.Hex
import ThreatModel.Text.Lower
import ThreatModel.Text.Mark
import ThreatModel.Text.Range
import ThreatModel.Text.Reader
import ThreatModel.Text.Search
import ThreatModel.Text.Style
import ThreatModel.Text.Word
import ThreatModel.Threat.Draft
import ThreatModel.Threat.Identity
import ThreatModel.Threat.Json
import ThreatModel.Threat.Record
import ThreatModel.Threat.Register
import ThreatModel.Threat.Summary
import ThreatModel.Toml.Document
import ThreatModel.Toml.Lexeme
import ThreatModel.Toml.Scalar
import ThreatModel.Toml.Table
import ThreatModel.Url.Address
import ThreatModel.Url.Basic
import ThreatModel.Url.Error
import ThreatModel.Url.Host
import ThreatModel.Url.Path
import ThreatModel.Url.Percent
import ThreatModel.Proofs.Architecture.WellFormed
import ThreatModel.Proofs.Architecture.FileOrder
import ThreatModel.Proofs.Prompt.Filling
import ThreatModel.Proofs.Prompt.Verbatim
import ThreatModel.Proofs.Pattern.Words
import ThreatModel.Proofs.Pattern.Replacement
import ThreatModel.Proofs.LogText.Secrets
import ThreatModel.Proofs.LogText.Assignments
import ThreatModel.Proofs.LogText.Leak
import ThreatModel.Proofs.Chat.Attempts
import ThreatModel.Proofs.Json.Numerals
import ThreatModel.Proofs.Reply.Format
import ThreatModel.Proofs.Synthesis.ModelRuns
import ThreatModel.Proofs.Risk.Hundredths
import ThreatModel.Proofs.Json.Record
import ThreatModel.Proofs.Report.Instant
import ThreatModel.Proofs.Report.Records
import ThreatModel.Proofs.Report.RoundTrip
import ThreatModel.Proofs.Risk.Levels
import ThreatModel.Proofs.Scan.Capped
import ThreatModel.Proofs.Rules.SecretFix
import ThreatModel.Proofs.Source.Locator
import ThreatModel.Proofs.Scan.Lines
import ThreatModel.Proofs.Chat.Backoff
import ThreatModel.Proofs.Source.Spellings
import ThreatModel.Proofs.Reply.Nulls
import ThreatModel.Proofs.Reply.Agreement
import ThreatModel.Proofs.Prompt.Evidence
import ThreatModel.Proofs.Prompt.Budget
import ThreatModel.Proofs.Source.Naming
import ThreatModel.Proofs.LogText.Clean
import ThreatModel.Proofs.Text.Offsets
import ThreatModel.Proofs.Reply.Offsets
import ThreatModel.Proofs.Reply.Safety
import ThreatModel.Proofs.Chat.Refusals
import ThreatModel.Proofs.Rules.KeyedLiterals
import ThreatModel.Proofs.Risk.Reading
import ThreatModel.Proofs.Threat.Counts
import ThreatModel.Proofs.Threat.Statement
import ThreatModel.Proofs.Threat.Identity
import ThreatModel.Proofs.Rules.NamingStyles
