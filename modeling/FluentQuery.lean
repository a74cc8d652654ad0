import FluentQuery.Binary64
import FluentQuery.Binary64.Shortest
import FluentQuery.Client
import FluentQuery.Client.Lane
import FluentQuery.Client.Schedule
import FluentQuery.Config
import FluentQuery.Connection
import FluentQuery.Connection.Setting
import FluentQuery.Connection.Url
import FluentQuery.Connection.Words
import FluentQuery.Duration
import FluentQuery.Error
import FluentQuery.Event
import FluentQuery.Executor
import FluentQuery.Filter
import FluentQuery.Filter.Logic
import FluentQuery.Filter.Operand
import FluentQuery.Filter.Operator
import FluentQuery.Filter.Set
import FluentQuery.ForeignKey
import FluentQuery.ForeignKey.Catalog
import FluentQuery.GraphCache
import FluentQuery.Ident
import FluentQuery.Job
import FluentQuery.Json
import FluentQuery.Json.Inspect
import FluentQuery.Json.Number
import FluentQuery.Json.Printer
import FluentQuery.Json.Reader
import FluentQuery.Outcome
import FluentQuery.Params
import FluentQuery.Predicate
import FluentQuery.Projection
import FluentQuery.Query
import FluentQuery.Query.Call
import FluentQuery.Query.Compile
import FluentQuery.Query.Run
import FluentQuery.Relation
import FluentQuery.Routine
import FluentQuery.Script
import FluentQuery.Select
import FluentQuery.Select.Column
import FluentQuery.Shape
import FluentQuery.Statement
import FluentQuery.Text
import FluentQuery.Text.Blank
import FluentQuery.Text.Hex
import FluentQuery.Text.Quoted
import FluentQuery.Text.TopLevel
import FluentQuery.Text.Utf8
import FluentQuery.Text.Word
import FluentQuery.Wire.Bytes
import FluentQuery.Wire.Calendar
import FluentQuery.Wire.Cell
import FluentQuery.Wire.Kind
import FluentQuery.Wire.Numeric
import FluentQuery.Wire.Param
import FluentQuery.Wire.Server
import FluentQuery.Proofs.Binary64.Interval
import FluentQuery.Proofs.Binary64.Render
import FluentQuery.Proofs.Binary64.Shortest
import FluentQuery.Proofs.Client
import FluentQuery.Proofs.Job
import FluentQuery.Proofs.Json.JoinKey
import FluentQuery.Proofs.Json.Printer
import FluentQuery.Proofs.Json.Quoted
import FluentQuery.Proofs.Projection
import FluentQuery.Proofs.Query.References
import FluentQuery.Proofs.Relation.Batched
import FluentQuery.Proofs.Relation.Frame
import FluentQuery.Proofs.Relation.Keys
import FluentQuery.Proofs.Relation.MatchKey
import FluentQuery.Proofs.Relation.NestedLoop
import FluentQuery.Proofs.Relation.Values
import FluentQuery.Proofs.Row
import FluentQuery.Proofs.Sql.Scan
import FluentQuery.Proofs.Sql.Template
import FluentQuery.Proofs.Sql.Condition
import FluentQuery.Proofs.Predicate.Truth
import FluentQuery.Proofs.Predicate.Template
import FluentQuery.Proofs.Store
import FluentQuery.Proofs.Sql.Names
import FluentQuery.Proofs.Predicate.Written
import FluentQuery.Proofs.Predicate.Compiled
import FluentQuery.Proofs.Query.Template
import FluentQuery.Proofs.Query.Sound
import FluentQuery.Proofs.Query.Filtered
import FluentQuery.Proofs.Query.Asked
import FluentQuery.Proofs.Query.Numbered
import FluentQuery.Proofs.Query.Contained
import FluentQuery.Proofs.Sql.Reading
import FluentQuery.Proofs.Predicate.Reading
import FluentQuery.Proofs.Predicate.Alike
import FluentQuery.Proofs.Query.Alike
import FluentQuery.Proofs.GraphCache.Callers
import FluentQuery.Proofs.GraphCache.SingleFlight
import FluentQuery.Proofs.GraphCache.Kept
import FluentQuery.Proofs.GraphCache.Stale
import FluentQuery.Proofs.GraphCache.Client
import FluentQuery.Proofs.GraphCache.Served
import FluentQuery.Proofs.Job.Trace
import FluentQuery.Proofs.Client.Sent
import FluentQuery.Proofs.Client.Trace
import FluentQuery.Proofs.Client.Recorded
import FluentQuery.Proofs.Relation.Fetches
import FluentQuery.Proofs.Query.Course
import FluentQuery.Proofs.Query.Followed
import FluentQuery.Proofs.Query.Refused
import FluentQuery.Proofs.Relation.Dropped
import FluentQuery.Proofs.Query.Affected
import FluentQuery.Proofs.Query.Shown
import FluentQuery.Proofs.Text.TopLevel
import FluentQuery.Proofs.Ident
import FluentQuery.Proofs.Filter.Operand
import FluentQuery.Proofs.Filter.Logic
import FluentQuery.Proofs.Query.Compact
import FluentQuery.Proofs.Text.Blank
import FluentQuery.Proofs.Text.Balanced
import FluentQuery.Proofs.Filter.Negation
import FluentQuery.Proofs.Filter.Literal
import FluentQuery.Proofs.Filter.Quoted
import FluentQuery.Proofs.Filter.Group
import FluentQuery.Proofs.Query.Complement
import FluentQuery.Proofs.ForeignKey.Resolved
import FluentQuery.Proofs.ForeignKey.Convention
import FluentQuery.Proofs.Sql.SelectList
import FluentQuery.Proofs.Projection.Evaluated
import FluentQuery.Proofs.Ident.Grammar
import FluentQuery.Proofs.Column
import FluentQuery.Proofs.Selection.Tokens
import FluentQuery.Proofs.Text.Nested
import FluentQuery.Proofs.Selection.Written
import FluentQuery.Proofs.Param.Literal
import FluentQuery.Proofs.Param.Agreement
import FluentQuery.Proofs.Sql.Insertion
import FluentQuery.Proofs.Query.Inserted
import FluentQuery.Proofs.Query.Upserted
import FluentQuery.Proofs.Query.Deferred
import FluentQuery.Proofs.Query.Paged
import FluentQuery.Proofs.Binary64.Nearest
import FluentQuery.Proofs.Wire.FixedPoint
import FluentQuery.Proofs.Wire.Numeric
import FluentQuery.Proofs.Wire.Cell
import FluentQuery.Proofs.Relation.Grouped
import FluentQuery.Proofs.Text.Shortened
