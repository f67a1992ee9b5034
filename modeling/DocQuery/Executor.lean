import DocQuery.Config
import DocQuery.Store.Backend

/-!
# Executors

An executor compiles queries and schema changes and has a backend run them.  A write whose documents
can only be found by a pipeline runs in two phases: the pipeline yields identities, and the write
then targets these.
-/

namespace DocQuery

/-- A backend with the settings under which queries run on it. -/
structure Executor (σ : Type) where
  backend : Backend σ
  config : Config

/-- The result of a query of any action. -/
inductive QueryOutcome where
  | rows (rows : List Document)
  | inserted (ids : List Value)
  | updated (matched modified : Nat)
  | deleted (count : Nat)

/-- What a row-by-row read hands out: the rows, and the error that ended it, if one did. -/
structure Delivery where
  rows : List Document
  failure : Option OperationError

/-- What a row-by-row read returns: the number of rows that it has handed out, or the error that ended
    it. -/
def Delivery.result (delivery : Delivery) : Except OperationError Nat :=
  match delivery.failure with
  | none => .ok delivery.rows.length
  | some failure => .error failure

/-- A compilation as an operation. -/
def Compiled.run {σ α : Type} (result : Compiled α) : Operation σ α :=
  match result with
  | .ok value => return value
  | .error error => throw (.compile error)

/-- Fails with the first of the reported write errors. -/
def checkWriteErrors {σ : Type} (errors : List WriteError) : Operation σ Unit :=
  match firstWriteError? errors with
  | some failure => throw failure
  | none => return ()

namespace Executor

variable {σ : Type}

/-- The options under which a query's pipelines run. -/
def options (executor : Executor σ) (options : ReadOptions) : ReadOptions :=
  executor.config.completeOptions options

/-- The stream of the rows of a read. -/
def stream (executor : Executor σ) (command : ReadCommand) : Operation σ RowStream :=
  executor.backend.aggregate command.collection command.pipeline
    (executor.options command.options)

/-- The rows of a find query. -/
def find (executor : Executor σ) (query : Query) : Operation σ (List Document) := do
  let command ← (query.readCommand executor.config.encoder).run
  let stream ← executor.stream command
  match stream.collect with
  | .ok rows => return command.normalizeRows rows
  | .error failure => throw failure

/-- The rows that a stream hands out for a read; an aggregate whose stream ends without any hands out
    its own row. -/
def deliver (command : ReadCommand) (stream : RowStream) : Delivery :=
  match stream.deliver, command.aggregate with
  | ([], none), some aggregate => ⟨[aggregate.emptyRow], none⟩
  | (rows, failure), _ => ⟨rows, failure⟩

/-- Starts to read a find query row by row. -/
def startDelivery (executor : Executor σ) (query : Query) : Operation σ Delivery := do
  let command ← (query.readCommand executor.config.encoder).run
  return deliver command (← executor.stream command)

/-- Reads a find query row by row.  A failure before the first row leaves no rows. -/
def findEach (executor : Executor σ) (query : Query) : StateM σ Delivery := do
  match ← (executor.startDelivery query).run with
  | .ok delivery => return delivery
  | .error failure => return ⟨[], some failure⟩

/-- Inserts the rows of an insert query and yields their identities. -/
def insert (executor : Executor σ) (query : Query) : Operation σ (List Value) := do
  let command ← (query.insertCommand executor.config.encoder).run
  let outcome ← executor.backend.insertMany command.collection command.documents
  checkWriteErrors outcome.writeErrors
  if outcome.insertedIds.length = command.documents.length then return outcome.insertedIds
  else throw (.insertCountMismatch command.documents.length outcome.insertedIds.length)

/-- Runs an update query; one that would change nothing does not reach the backend. -/
def update (executor : Executor σ) (query : Query) : Operation σ UpdateOutcome := do
  (query.expectAction [.update]).run
  match ← (query.writeCommand executor.config.encoder).run with
  | .delete _ _ => throw (.compile (.action .delete))
  | .update _ _ none => return .nothing
  | .update collection plan (some update) =>
      let filter ← executor.backend.targetFilter collection plan (executor.options query.options)
      let outcome ← executor.backend.updateMany collection filter update
      checkWriteErrors outcome.writeErrors
      return outcome

/-- Runs a delete query and yields the number of deleted documents. -/
def delete (executor : Executor σ) (query : Query) : Operation σ Nat := do
  (query.expectAction [.delete]).run
  match ← (query.writeCommand executor.config.encoder).run with
  | .update collection plan _ | .delete collection plan =>
      let filter ← executor.backend.targetFilter collection plan (executor.options query.options)
      executor.backend.deleteMany collection filter

/-- Runs a query by its action. -/
def execute (executor : Executor σ) (query : Query) : Operation σ QueryOutcome := do
  match query.action with
  | .find => return .rows (← executor.find query)
  | .insert => return .inserted (← executor.insert query)
  | .update =>
      let outcome ← executor.update query
      return .updated outcome.matched outcome.modified
  | .delete => return .deleted (← executor.delete query)

/-- Creates indexes unless there are none. -/
def createIndexes (executor : Executor σ) (collection : String) (indexes : List IndexSpec) :
    Operation σ Unit :=
  if indexes.isEmpty then return () else executor.backend.createIndexes collection indexes

/-- Applies a schema change; an alteration merges into the validator that is there. -/
def applySchema (executor : Executor σ) (change : SchemaChange) : Operation σ SchemaCommand := do
  let existing ← match change.action with
    | .update => executor.backend.collectionValidator change.schema
    | _ => pure none
  let command ← (change.command existing).run
  match command with
  | .create collection validator indexes =>
      executor.backend.createCollection collection validator
      executor.createIndexes collection indexes
  | .alter collection validator indexes =>
      executor.backend.modifyValidator collection validator
      executor.createIndexes collection indexes
  | .drop collection => executor.backend.dropCollection collection
  return command

end Executor

end DocQuery
