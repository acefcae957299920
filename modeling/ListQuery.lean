import ListQuery.Arguments
import ListQuery.Command
import ListQuery.Database.Conversation
import ListQuery.Database.Endpoint
import ListQuery.Database.Fetch
import ListQuery.Database.Script
import ListQuery.Engine
import ListQuery.Error
import ListQuery.FieldType
import ListQuery.Filter.Clause
import ListQuery.Filter.Operation
import ListQuery.Filter.Value
import ListQuery.Json.Basic
import ListQuery.Json.Decode
import ListQuery.Json.Document
import ListQuery.Json.Printer
import ListQuery.Main
import ListQuery.Metadata.Basic
import ListQuery.Metadata.Decode
import ListQuery.Metadata.Path
import ListQuery.Metadata.Validation
import ListQuery.Network.Host
import ListQuery.Network.IpAddress
import ListQuery.Network.Path
import ListQuery.Network.Punycode
import ListQuery.Network.Url
import ListQuery.Number.Binary64
import ListQuery.Number.Decimal
import ListQuery.Number.Integer
import ListQuery.Ordered
import ListQuery.Page
import ListQuery.Plan
import ListQuery.Predicate.Basic
import ListQuery.Predicate.Builder
import ListQuery.Predicate.Edit
import ListQuery.Proofs.Database.Agenda
import ListQuery.Proofs.Database.Isolation
import ListQuery.Proofs.Database.Session
import ListQuery.Proofs.Engine.Failure
import ListQuery.Proofs.Engine.Paging
import ListQuery.Proofs.Filter.Clause
import ListQuery.Proofs.Filter.Grammar
import ListQuery.Proofs.Filter.Pieces
import ListQuery.Proofs.Filter.Value
import ListQuery.Proofs.Metadata.Contract
import ListQuery.Proofs.Metadata.Path
import ListQuery.Proofs.Number.Decimal
import ListQuery.Proofs.Number.Digits
import ListQuery.Proofs.Number.Integer
import ListQuery.Proofs.Number.Rounding
import ListQuery.Proofs.Number.Value
import ListQuery.Proofs.Ordered
import ListQuery.Proofs.Page
import ListQuery.Proofs.Plan.Build
import ListQuery.Proofs.Plan.Contract
import ListQuery.Proofs.Plan.DeclarationOrder
import ListQuery.Proofs.Plan.Failure
import ListQuery.Proofs.Plan.Joins
import ListQuery.Proofs.Plan.Ranges
import ListQuery.Proofs.Plan.Refusal
import ListQuery.Proofs.Plan.Requests
import ListQuery.Proofs.Plan.SortList
import ListQuery.Proofs.Plan.Typing
import ListQuery.Proofs.Predicate.Edit
import ListQuery.Proofs.Predicate.Record
import ListQuery.Proofs.Request.Encoding
import ListQuery.Proofs.Request.Form
import ListQuery.Proofs.Request.Gathering
import ListQuery.Proofs.Request.RoundTrip
import ListQuery.Proofs.Sorting.Naturality
import ListQuery.Proofs.Sorting.Permutation
import ListQuery.Proofs.Sorting.Ranks
import ListQuery.Proofs.Sorting.Settled
import ListQuery.Proofs.Sorting.Stability
import ListQuery.Proofs.Sorting.Ties
import ListQuery.Proofs.Sql.Blocks
import ListQuery.Proofs.Sql.Counting
import ListQuery.Proofs.Sql.Identifiers
import ListQuery.Proofs.Sql.Injection
import ListQuery.Proofs.Sql.Lexer
import ListQuery.Proofs.Sql.Literals
import ListQuery.Proofs.Sql.Meaning
import ListQuery.Proofs.Sql.Naming
import ListQuery.Proofs.Sql.Paging
import ListQuery.Proofs.Sql.Pattern
import ListQuery.Proofs.Sql.Precedence
import ListQuery.Proofs.Sql.Scoping
import ListQuery.Proofs.Sql.Strings
import ListQuery.Proofs.Sql.TableNames
import ListQuery.Proofs.Sql.Tokens
import ListQuery.Proofs.Sql.Truth
import ListQuery.Proofs.Sql.Words
import ListQuery.Proofs.Store.Choices
import ListQuery.Proofs.Store.FilterOrder
import ListQuery.Proofs.Store.Instants
import ListQuery.Proofs.Store.Integers
import ListQuery.Proofs.Store.Membership
import ListQuery.Proofs.Store.Narrowing
import ListQuery.Proofs.Store.Noninterference
import ListQuery.Proofs.Store.Partition
import ListQuery.Proofs.Store.Positions
import ListQuery.Proofs.Store.Ranges
import ListQuery.Proofs.Store.Search
import ListQuery.Proofs.Store.Selection
import ListQuery.Proofs.Store.SortedRows
import ListQuery.Proofs.Store.Substring
import ListQuery.Proofs.Store.Tuple
import ListQuery.Proofs.Store.ValueOrder
import ListQuery.Proofs.Text.Split
import ListQuery.Proofs.Text.Utf8
import ListQuery.Proofs.Time.Calendar
import ListQuery.Proofs.Time.Timestamp
import ListQuery.Proofs.Time.Writing
import ListQuery.Proofs.Uuid
import ListQuery.Request.Body
import ListQuery.Request.Form
import ListQuery.Request.Parameters
import ListQuery.Sample
import ListQuery.Settings
import ListQuery.Sort
import ListQuery.Sorting.Block
import ListQuery.Sorting.Runs
import ListQuery.Sorting.Stable
import ListQuery.Sql.Condition
import ListQuery.Sql.Rendering
import ListQuery.Sql.Statement
import ListQuery.Store.Binding
import ListQuery.Store.Matching
import ListQuery.Store.Row
import ListQuery.Text.Blank
import ListQuery.Text.Case
import ListQuery.Text.CaseTable
import ListQuery.Text.Character
import ListQuery.Text.Quoted
import ListQuery.Text.Reader
import ListQuery.Text.Split
import ListQuery.Text.Utf8
import ListQuery.Time.Calendar
import ListQuery.Time.Instant
import ListQuery.Toml.Basic
import ListQuery.Toml.Datetime
import ListQuery.Toml.Document
import ListQuery.Toml.Scalar
import ListQuery.Uuid
