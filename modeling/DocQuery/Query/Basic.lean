import DocQuery.Query.Aggregate
import DocQuery.Query.Changes
import DocQuery.Query.Filter
import DocQuery.Query.Join
import DocQuery.Query.Window

/-!
# Queries

A query against one main collection: what to do, which rows, in which order and window, and which
fields of them.
-/

namespace DocQuery

/-- What a query does. -/
inductive Action where
  | insert
  | find
  | update
  | delete
deriving DecidableEq, Repr

/-- The name of an action. -/
def Action.name : Action → String
  | .insert => "insert"
  | .find => "find"
  | .update => "update"
  | .delete => "delete"

/-- A requested output. -/
inductive Output where
  | raw (field : Field)
  | aggregate (aggregate : Aggregate)

/-- Options that are passed through to the store. -/
structure ReadOptions where
  allowDiskUse : Option Bool
  batchSize : Option UInt32
  maxTimeMs : Option UInt64
  comment : Option String
deriving DecidableEq, Repr

/-- No option set. -/
def ReadOptions.none : ReadOptions := ⟨.none, .none, .none, .none⟩

/-- A query. -/
structure Query where
  /-- The main collection. -/
  schema : String
  action : Action
  outputs : List Output
  distinct : Bool
  joins : List Join
  filters : List Filter
  /-- How the filters are combined. -/
  relation : Relation
  /-- The rows to insert. -/
  input : List Operand
  changes : Changes
  /-- Update operators that are merged into the compiled update. -/
  customUpdate : Option Document
  offsets : List RowCount
  limits : List RowCount
  sorts : List SortKey
  options : ReadOptions

namespace Query

/-- The query for all documents of a collection. -/
def ofSchema (schema : String) (action : Action) : Query where
  schema := schema
  action := action
  outputs := []
  distinct := false
  joins := []
  filters := []
  relation := .and
  input := []
  changes := .none
  customUpdate := .none
  offsets := []
  limits := []
  sorts := []
  options := .none

/-- The requested fields that are no aggregates. -/
def rawFields (query : Query) : List Field :=
  query.outputs.filterMap fun output =>
    match output with
    | .raw field => some field
    | .aggregate _ => none

/-- The requested aggregates. -/
def aggregates (query : Query) : List Aggregate :=
  query.outputs.filterMap fun output =>
    match output with
    | .raw _ => none
    | .aggregate aggregate => some aggregate

/-- Whether a filter compares two fields. -/
def usesExpression (query : Query) : Bool := Filter.anyUsesExpression query.filters

/-- Whether the documents that a query is about can only be found by a pipeline. -/
def requiresPipeline (query : Query) : Bool :=
  !query.joins.isEmpty || query.usesExpression || !query.limits.isEmpty || !query.offsets.isEmpty

end Query

end DocQuery
