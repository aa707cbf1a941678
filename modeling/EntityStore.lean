import EntityStore.Access.Join
import EntityStore.Access.Repository
import EntityStore.Access.Session
import EntityStore.Access.Trace
import EntityStore.Access.Writing
import EntityStore.Dialect.Cell
import EntityStore.Dialect.Lite
import EntityStore.Dialect.Settings
import EntityStore.Entity.Basic
import EntityStore.Entity.Column
import EntityStore.Entity.FieldError
import EntityStore.Entity.Row
import EntityStore.Error
import EntityStore.Guid
import EntityStore.Mapping.Basic
import EntityStore.Mapping.Instance
import EntityStore.Mapping.Name
import EntityStore.Mapping.Token
import EntityStore.Number.Decimal
import EntityStore.Number.Double
import EntityStore.Number.Numeral
import EntityStore.Number.Shortest
import EntityStore.Proofs.Access.BoundPlaces
import EntityStore.Proofs.Access.BulkInsertion
import EntityStore.Proofs.Access.Execution
import EntityStore.Proofs.Access.Failure
import EntityStore.Proofs.Access.JoinChain
import EntityStore.Proofs.Access.JoinResolution
import EntityStore.Proofs.Access.JoinResults
import EntityStore.Proofs.Access.JoinScope
import EntityStore.Proofs.Access.JoinStatement
import EntityStore.Proofs.Access.KeyAddressing
import EntityStore.Proofs.Access.Operation
import EntityStore.Proofs.Access.Rejection
import EntityStore.Proofs.Access.Reporting
import EntityStore.Proofs.Access.Sending
import EntityStore.Proofs.Access.Write
import EntityStore.Proofs.Access.WritePlan
import EntityStore.Proofs.Access.WrittenValues
import EntityStore.Proofs.Dialect.Casting
import EntityStore.Proofs.Dialect.ClauseCasting
import EntityStore.Proofs.Dialect.ClauseRecasting
import EntityStore.Proofs.Dialect.Recasting
import EntityStore.Proofs.Dialect.Returning
import EntityStore.Proofs.Dialect.Storing
import EntityStore.Proofs.Entity.ColumnReach
import EntityStore.Proofs.Entity.RowReading
import EntityStore.Proofs.FirstFault
import EntityStore.Proofs.Mapping.ColumnNames
import EntityStore.Proofs.Mapping.Columns
import EntityStore.Proofs.Mapping.RoundTrip
import EntityStore.Proofs.Mapping.Rules
import EntityStore.Proofs.Mapping.Validation
import EntityStore.Proofs.Number.DecimalReading
import EntityStore.Proofs.Outcome
import EntityStore.Proofs.Query.Agreement
import EntityStore.Proofs.Query.Batches
import EntityStore.Proofs.Query.ClauseComment
import EntityStore.Proofs.Query.ClauseFailure
import EntityStore.Proofs.Query.ClauseJoints
import EntityStore.Proofs.Query.ClauseReading
import EntityStore.Proofs.Query.ClauseStream
import EntityStore.Proofs.Query.Conversion
import EntityStore.Proofs.Query.Evaluation
import EntityStore.Proofs.Query.Formula
import EntityStore.Proofs.Query.FormulaReading
import EntityStore.Proofs.Query.Fragment
import EntityStore.Proofs.Query.Item
import EntityStore.Proofs.Query.ItemReading
import EntityStore.Proofs.Query.Matching
import EntityStore.Proofs.Query.Membership
import EntityStore.Proofs.Query.PredicateComment
import EntityStore.Proofs.Query.PredicateReading
import EntityStore.Proofs.Query.TextCast
import EntityStore.Proofs.Query.Translation
import EntityStore.Proofs.Query.Wildcards
import EntityStore.Proofs.Sql.Comment
import EntityStore.Proofs.Sql.Literal
import EntityStore.Proofs.Sql.LiteralReading
import EntityStore.Proofs.Sql.NameReading
import EntityStore.Proofs.Sql.Nesting
import EntityStore.Proofs.Sql.Pattern
import EntityStore.Proofs.Sql.Placeholder
import EntityStore.Proofs.Sql.Token
import EntityStore.Proofs.Sql.ValueComment
import EntityStore.Proofs.Text.Doubling
import EntityStore.Proofs.Text.Guids
import EntityStore.Proofs.Text.Numbers
import EntityStore.Proofs.Text.Searching
import EntityStore.Proofs.Time.SpanNotation
import EntityStore.Proofs.Time.SpanParts
import EntityStore.Proofs.Time.SpanRoundTrip
import EntityStore.Proofs.Time.TimestampReading
import EntityStore.Proofs.Value.Leaf
import EntityStore.Query.Clause
import EntityStore.Query.Comparison
import EntityStore.Query.Condition
import EntityStore.Query.Expr
import EntityStore.Query.Guard
import EntityStore.Query.Literal
import EntityStore.Query.Operator
import EntityStore.Query.Predicate
import EntityStore.Text.Basic
import EntityStore.Text.Blank
import EntityStore.Text.Bracketed
import EntityStore.Text.Digits
import EntityStore.Text.Escaped
import EntityStore.Text.Identifier
import EntityStore.Text.LetterCase
import EntityStore.Text.Quoted
import EntityStore.Text.Unprintable
import EntityStore.Text.Utf8
import EntityStore.Text.Words
import EntityStore.Time.Calendar
import EntityStore.Time.Format
import EntityStore.Time.Read
import EntityStore.Time.Span
import EntityStore.Time.Unit
import EntityStore.Value.Basic
import EntityStore.Value.Conversion
import EntityStore.Value.Decode
import EntityStore.Value.ScalarType
import EntityStore.Proofs.Text.Truncation
import EntityStore.Proofs.Value.WholeNumber
import EntityStore.Proofs.Access.JoinedRow
import EntityStore.Proofs.Query.Guard
