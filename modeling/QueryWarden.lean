import QueryWarden.Calendar.Date
import QueryWarden.Calendar.DateTime
import QueryWarden.Calendar.IsoReader
import QueryWarden.Database.Connection
import QueryWarden.Database.Store
import QueryWarden.Double.Basic
import QueryWarden.Double.Text
import QueryWarden.ExtendedJson.Decode
import QueryWarden.ExtendedJson.Encode
import QueryWarden.Failure.Basic
import QueryWarden.Http.Message
import QueryWarden.Http.Request
import QueryWarden.Http.Server
import QueryWarden.Input.Coercion
import QueryWarden.Input.NumberText
import QueryWarden.Json.Reader
import QueryWarden.Lifecycle
import QueryWarden.LogLevel
import QueryWarden.Number.Decimal
import QueryWarden.Number.Numeral
import QueryWarden.Pattern.Flags
import QueryWarden.Prompt
import QueryWarden.Proofs.Calendar.Date
import QueryWarden.Proofs.Calendar.Instant
import QueryWarden.Proofs.Calendar.IsoText
import QueryWarden.Proofs.Calendar.Milliseconds
import QueryWarden.Proofs.Database.Clients
import QueryWarden.Proofs.Database.Contacts
import QueryWarden.Proofs.Database.Ledger
import QueryWarden.Proofs.Database.Listings
import QueryWarden.Proofs.ExtendedJson.Dates
import QueryWarden.Proofs.ExtendedJson.Decode
import QueryWarden.Proofs.ExtendedJson.Encode
import QueryWarden.Proofs.ExtendedJson.Lossless
import QueryWarden.Proofs.ExtendedJson.Places
import QueryWarden.Proofs.ExtendedJson.RoundTrip
import QueryWarden.Proofs.Json.Reader
import QueryWarden.Proofs.Json.Span
import QueryWarden.Proofs.Pattern.Escape
import QueryWarden.Proofs.Pattern.Flags
import QueryWarden.Proofs.Query.Clean
import QueryWarden.Proofs.Query.DenyList
import QueryWarden.Proofs.Query.EmptyFilters
import QueryWarden.Proofs.Query.ExactOperands
import QueryWarden.Proofs.Query.Fuzzy
import QueryWarden.Proofs.Query.KeptPaths
import QueryWarden.Proofs.Query.LiteralClauses
import QueryWarden.Proofs.Query.Literals
import QueryWarden.Proofs.Query.Modes
import QueryWarden.Proofs.Query.NamedKeys
import QueryWarden.Proofs.Query.Residue
import QueryWarden.Proofs.Query.Sanitation
import QueryWarden.Proofs.Query.Shape
import QueryWarden.Proofs.Query.Trees
import QueryWarden.Proofs.Query.Vacuous
import QueryWarden.Proofs.Reply.Fence
import QueryWarden.Proofs.Reply.FirstFence
import QueryWarden.Proofs.Reply.Pattern
import QueryWarden.Proofs.Reply.Surrounded
import QueryWarden.Proofs.Reply.Tag
import QueryWarden.Proofs.Schema.CaseMap
import QueryWarden.Proofs.Schema.FieldPaths
import QueryWarden.Proofs.Schema.Operators
import QueryWarden.Proofs.Schema.Recasing
import QueryWarden.Proofs.Schema.Respelling
import QueryWarden.Proofs.Schema.Sample
import QueryWarden.Proofs.Service.Asking
import QueryWarden.Proofs.Service.BlankLiterals
import QueryWarden.Proofs.Service.Calls
import QueryWarden.Proofs.Service.Capped
import QueryWarden.Proofs.Service.Conditions
import QueryWarden.Proofs.Service.ExecutedKeys
import QueryWarden.Proofs.Service.FuzzyPatterns
import QueryWarden.Proofs.Service.Generate
import QueryWarden.Proofs.Service.GeneratedKeys
import QueryWarden.Proofs.Service.Hints
import QueryWarden.Proofs.Service.Keys
import QueryWarden.Proofs.Service.Operators
import QueryWarden.Proofs.Service.Patterns
import QueryWarden.Proofs.Service.Refusal
import QueryWarden.Proofs.Service.Replay
import QueryWarden.Proofs.Service.Reports
import QueryWarden.Proofs.Service.Restriction
import QueryWarden.Proofs.Service.Run
import QueryWarden.Proofs.Service.Settled
import QueryWarden.Proofs.Service.Shapes
import QueryWarden.Proofs.Service.WellFormed
import QueryWarden.Proofs.Text.Digits
import QueryWarden.Proofs.Text.Trim
import QueryWarden.Proofs.TextModel.Attempts
import QueryWarden.Proofs.Value.Fields
import QueryWarden.Proofs.Value.Replacement
import QueryWarden.Proofs.Value.Trees
import QueryWarden.Query.DenyList
import QueryWarden.Query.Fuzzy
import QueryWarden.Query.Limit
import QueryWarden.Query.Sanitation
import QueryWarden.Query.Shape
import QueryWarden.Query.Source
import QueryWarden.Query.Spec
import QueryWarden.Query.Typed
import QueryWarden.Reply.Extraction
import QueryWarden.Schema.CaseMap
import QueryWarden.Schema.FieldPaths
import QueryWarden.Service.Basic
import QueryWarden.Service.Run
import QueryWarden.Settings.Basic
import QueryWarden.Settings.Environment
import QueryWarden.Text.Blank
import QueryWarden.Text.Case
import QueryWarden.Text.Digits
import QueryWarden.Text.Quoted
import QueryWarden.Text.Utf8
import QueryWarden.TextModel.Client
import QueryWarden.Traced
import QueryWarden.Value.Basic
import QueryWarden.Value.Text
