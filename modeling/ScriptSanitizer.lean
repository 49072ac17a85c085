import ScriptSanitizer.Text.Basic
import ScriptSanitizer.Text.Blank
import ScriptSanitizer.Text.Quoted
import ScriptSanitizer.Text.Scan
import ScriptSanitizer.Text.Utf8
import ScriptSanitizer.Text.Word
import ScriptSanitizer.Unicode.Age
import ScriptSanitizer.Unicode.CaseFold
import ScriptSanitizer.Unicode.Property
import ScriptSanitizer.Unicode.Script
import ScriptSanitizer.Unicode.Segmentation
import ScriptSanitizer.Binary64.Shortest
import ScriptSanitizer.UnicodeEscape
import ScriptSanitizer.Entity.Reference
import ScriptSanitizer.Base64.Block
import ScriptSanitizer.MalformedFragment
import ScriptSanitizer.Finder
import ScriptSanitizer.Regex.Meaning
import ScriptSanitizer.Pattern
import ScriptSanitizer.Event
import ScriptSanitizer.Settings
import ScriptSanitizer.Sanitizer
import ScriptSanitizer.Detection
import ScriptSanitizer.MultiMap
import ScriptSanitizer.FormEncoding
import ScriptSanitizer.Json.Parser
import ScriptSanitizer.Json.Printer
import ScriptSanitizer.Json.Sanitization
import ScriptSanitizer.Json.Settings
import ScriptSanitizer.Toml.Parser
import ScriptSanitizer.Command.Run
import ScriptSanitizer.Main
import ScriptSanitizer.Proofs.Regex.Matching
import ScriptSanitizer.Proofs.Regex.Moves
import ScriptSanitizer.Proofs.Regex.Search
import ScriptSanitizer.Proofs.Base64.Blocks
import ScriptSanitizer.Proofs.Strike
import ScriptSanitizer.Proofs.Decoding
import ScriptSanitizer.Proofs.Passes
import ScriptSanitizer.Proofs.Nesting
import ScriptSanitizer.Proofs.Agreement
import ScriptSanitizer.Proofs.Convergence
import ScriptSanitizer.Proofs.Base64.RoundTrip
import ScriptSanitizer.Proofs.Wrapping
import ScriptSanitizer.Proofs.Spelling
import ScriptSanitizer.Proofs.CodeUnits
import ScriptSanitizer.Proofs.Regex.Occurrence
import ScriptSanitizer.Proofs.Locality
import ScriptSanitizer.Proofs.References
import ScriptSanitizer.Proofs.Survival
import ScriptSanitizer.Proofs.Idempotence
import ScriptSanitizer.Proofs.Verdict
import ScriptSanitizer.Proofs.Joining
import ScriptSanitizer.Proofs.Base64.Extension
import ScriptSanitizer.Proofs.NulInsertion
import ScriptSanitizer.Proofs.Content
import ScriptSanitizer.Proofs.Resumption
import ScriptSanitizer.Proofs.Monotonicity
import ScriptSanitizer.Proofs.Base64.Shrinkage
import ScriptSanitizer.Proofs.Recursion
import ScriptSanitizer.Proofs.Calls
import ScriptSanitizer.Proofs.Computation
import ScriptSanitizer.Proofs.MultiMap.Lookup
import ScriptSanitizer.Proofs.MultiMap.History
import ScriptSanitizer.Proofs.Json.Lexemes
import ScriptSanitizer.Proofs.Json.Spreading
import ScriptSanitizer.Proofs.Json.RoundTrip
import ScriptSanitizer.Proofs.Json.Reader
import ScriptSanitizer.Proofs.Json.Leaves
import ScriptSanitizer.Proofs.Command.Lines
import ScriptSanitizer.Proofs.Command.Arguments
import ScriptSanitizer.Proofs.Command.ExitStatus
import ScriptSanitizer.Proofs.EmptyMatches
import ScriptSanitizer.Proofs.PlainText
import ScriptSanitizer.Proofs.Base64.Spacing
import ScriptSanitizer.Proofs.Text.Fragments
import ScriptSanitizer.Proofs.Warnings
import ScriptSanitizer.Proofs.MultiMap.Building
import ScriptSanitizer.Proofs.Json.Parameters
import ScriptSanitizer.Proofs.Text.Pieces
import ScriptSanitizer.Proofs.FormEncoding
import ScriptSanitizer.Proofs.Json.Indentation
import ScriptSanitizer.Proofs.Json.Order
import ScriptSanitizer.Proofs.Json.OneLine
import ScriptSanitizer.Proofs.Command.Documents
import ScriptSanitizer.Proofs.Command.Queries
import ScriptSanitizer.Proofs.Toml.Scalars
import ScriptSanitizer.Proofs.Toml.Values
import ScriptSanitizer.Proofs.Toml.Lines
import ScriptSanitizer.Proofs.Command.Defaults
