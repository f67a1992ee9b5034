import DocQuery.Binary64
import DocQuery.Binary64.Decimal
import DocQuery.Binary64.Reader
import DocQuery.Calendar
import DocQuery.Calendar.Reader
import DocQuery.CommandLine
import DocQuery.Compile.Command
import DocQuery.Compile.Error
import DocQuery.Compile.Field
import DocQuery.Compile.Operand
import DocQuery.Compile.Pipeline
import DocQuery.Compile.Predicate
import DocQuery.Compile.Printer
import DocQuery.Compile.Schema
import DocQuery.Compile.Stage
import DocQuery.Compile.Update
import DocQuery.Config
import DocQuery.Config.File
import DocQuery.Config.Overrides
import DocQuery.Document
import DocQuery.Document.Path
import DocQuery.Engine.Arithmetic
import DocQuery.Engine.Error
import DocQuery.Engine.Expression
import DocQuery.Engine.Pipeline
import DocQuery.Engine.Predicate
import DocQuery.Engine.Sorting
import DocQuery.Engine.Update
import DocQuery.Engine.Validation
import DocQuery.Environment
import DocQuery.Environment.File
import DocQuery.Executor
import DocQuery.Json
import DocQuery.Json.Parser
import DocQuery.Json.Printer
import DocQuery.Json.Record
import DocQuery.Main
import DocQuery.ObjectId
import DocQuery.Proofs.Binary64.Rounding
import DocQuery.Proofs.Binary64.Truncation
import DocQuery.Proofs.Compile.Aggregate
import DocQuery.Proofs.Compile.Copies
import DocQuery.Proofs.Compile.Distinct
import DocQuery.Proofs.Compile.Exclusion
import DocQuery.Proofs.Compile.Field
import DocQuery.Proofs.Compile.Identity
import DocQuery.Proofs.Compile.Ignored
import DocQuery.Proofs.Compile.IndexName
import DocQuery.Proofs.Compile.Join
import DocQuery.Proofs.Compile.JsonOperand
import DocQuery.Proofs.Compile.Merge
import DocQuery.Proofs.Compile.Mirror
import DocQuery.Proofs.Compile.OrEqual
import DocQuery.Proofs.Compile.Pipeline
import DocQuery.Proofs.Compile.Plan
import DocQuery.Proofs.Compile.Predicate
import DocQuery.Proofs.Compile.Projection
import DocQuery.Proofs.Compile.Push
import DocQuery.Proofs.Compile.Reduction
import DocQuery.Proofs.Compile.Relation
import DocQuery.Proofs.Compile.Rows
import DocQuery.Proofs.Compile.Satisfaction
import DocQuery.Proofs.Compile.Schema
import DocQuery.Proofs.Compile.Sort
import DocQuery.Proofs.Compile.Support
import DocQuery.Proofs.Compile.Update
import DocQuery.Proofs.Compile.Window
import DocQuery.Proofs.Document.Basic
import DocQuery.Proofs.Document.Path
import DocQuery.Proofs.Engine.Agreement
import DocQuery.Proofs.Engine.Arithmetic
import DocQuery.Proofs.Engine.Extreme
import DocQuery.Proofs.Engine.Grouping
import DocQuery.Proofs.Engine.Identity
import DocQuery.Proofs.Engine.Increment
import DocQuery.Proofs.Engine.Items
import DocQuery.Proofs.Engine.Pipeline
import DocQuery.Proofs.Engine.Predicate
import DocQuery.Proofs.Engine.Projection
import DocQuery.Proofs.Engine.Slot
import DocQuery.Proofs.Engine.Sorting
import DocQuery.Proofs.Engine.Sum
import DocQuery.Proofs.Engine.Support
import DocQuery.Proofs.Engine.Update
import DocQuery.Proofs.Engine.Validation
import DocQuery.Proofs.Executor.Basic
import DocQuery.Proofs.Executor.Count
import DocQuery.Proofs.Executor.Delete
import DocQuery.Proofs.Executor.Delivery
import DocQuery.Proofs.Executor.Distinct
import DocQuery.Proofs.Executor.Extreme
import DocQuery.Proofs.Executor.FailedDelete
import DocQuery.Proofs.Executor.Find
import DocQuery.Proofs.Executor.Insert
import DocQuery.Proofs.Executor.Interrupted
import DocQuery.Proofs.Executor.Limit
import DocQuery.Proofs.Executor.Requested
import DocQuery.Proofs.Executor.Schema
import DocQuery.Proofs.Executor.Support
import DocQuery.Proofs.Run
import DocQuery.Proofs.Store.Basic
import DocQuery.Proofs.Store.Distinct
import DocQuery.Proofs.Store.Identity
import DocQuery.Proofs.Store.Indexes
import DocQuery.Proofs.Store.Insert
import DocQuery.Proofs.Store.Reached
import DocQuery.Proofs.Store.Replacement
import DocQuery.Proofs.Store.Unchanged
import DocQuery.Proofs.Store.Update
import DocQuery.Proofs.Store.Valid
import DocQuery.Proofs.Store.Validators
import DocQuery.Proofs.Text.Segments
import DocQuery.Proofs.Value.Integers
import DocQuery.Proofs.Value.Order
import DocQuery.Proofs.Value.Outline
import DocQuery.Proofs.Value.Preorder
import DocQuery.Proofs.Value.Same
import DocQuery.Proofs.Value.Transitivity
import DocQuery.Query.Aggregate
import DocQuery.Query.Basic
import DocQuery.Query.Changes
import DocQuery.Query.Custom
import DocQuery.Query.Field
import DocQuery.Query.Filter
import DocQuery.Query.Join
import DocQuery.Query.Key
import DocQuery.Query.Operand
import DocQuery.Query.Reader
import DocQuery.Query.Window
import DocQuery.Schema.Change
import DocQuery.Schema.Reader
import DocQuery.Store.Backend
import DocQuery.Store.Basic
import DocQuery.Store.Collection
import DocQuery.Store.Journal
import DocQuery.Text.Alphanumeric
import DocQuery.Text.Base64
import DocQuery.Text.Blank
import DocQuery.Text.Hex
import DocQuery.Text.Number
import DocQuery.Text.Quoted
import DocQuery.Text.Unprintable
import DocQuery.Toml
import DocQuery.Toml.Parser
import DocQuery.Value
import DocQuery.Value.Decimal128
import DocQuery.Value.Decimal128.Reader
import DocQuery.Value.Extended
import DocQuery.Value.Order
import DocQuery.Value.Printer
import DocQuery.Value.Reader
import DocQuery.Value.Same
import DocQuery.Value.Text
