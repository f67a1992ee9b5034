import DocQuery.Compile.Pipeline
import DocQuery.Compile.Update

/-!
# Commands

What the store is asked to do for a query: run a pipeline, insert documents, or write to the
documents that a plan finds.  A write finds its documents by a predicate where that is enough, and
by a pipeline that yields their identities where the query joins, compares fields or has a row
window.
-/

namespace DocQuery

/-- A compiled read. -/
structure ReadCommand where
  collection : String
  pipeline : List Document
  /-- Kept for the rows that stand for no rows. -/
  aggregate : Option Aggregate
  options : ReadOptions

/-- The rows of a read; an aggregate over no rows has its own. -/
def ReadCommand.normalizeRows (command : ReadCommand) (rows : List Document) : List Document :=
  match command.aggregate with
  | some aggregate => aggregate.normalizeRows rows
  | none => rows

/-- A compiled insert. -/
structure InsertCommand where
  collection : String
  documents : List Document

/-- How a write finds its documents. -/
inductive WritePlan where
  /-- By a predicate. -/
  | direct (filter : Document)
  /-- By a pipeline that yields their identities. -/
  | resolveIds (pipeline : List Document)

/-- Whether a plan runs a pipeline first. -/
def WritePlan.requiresResolution : WritePlan → Bool
  | .direct _ => false
  | .resolveIds _ => true

/-- A compiled update or delete. -/
inductive WriteCommand where
  /-- The update is absent where nothing would change. -/
  | update (collection : String) (plan : WritePlan) (update : Option Document)
  | delete (collection : String) (plan : WritePlan)

/-- The predicate that finds documents by their identities. -/
def resolvedFilter (ids : List Value) : Document :=
  [(idName, .document [("$in", .array ids)])]

namespace Query

/-- Fails unless the query's action is one of those allowed. -/
def expectAction (query : Query) (allowed : List Action) : Compiled Unit :=
  if query.action ∈ allowed then .ok () else .error (.action query.action)

/-- The pipeline of a query. -/
def pipeline (query : Query) (encoder : Encoder) : Compiled (List Document) :=
  query.stages encoder true

/-- The read that a find query compiles to. -/
def readCommand (query : Query) (encoder : Encoder) : Compiled ReadCommand := do
  query.expectAction [.find]
  let pipeline ← query.pipeline encoder
  let aggregate ← query.aggregate?
  return { collection := query.schema, pipeline, aggregate, options := query.options }

/-- The insert that an insert query compiles to. -/
def insertCommand (query : Query) (encoder : Encoder) : Compiled InsertCommand := do
  query.expectAction [.insert]
  if query.input.isEmpty then .error .insertWithoutRows
  else
    let documents ← query.input.mapM (Operand.encodeRow encoder)
    return { collection := query.schema, documents }

/-- How a write of the query finds its documents. -/
def writePlan (query : Query) (encoder : Encoder) : Compiled WritePlan :=
  if query.requiresPipeline then do
    return .resolveIds ((← query.stages encoder false) ++ [Stage.idOnly])
  else do
    return .direct ((← query.predicate encoder).getD [])

/-- The write that an update or delete query compiles to. -/
def writeCommand (query : Query) (encoder : Encoder) : Compiled WriteCommand := do
  query.expectAction [.update, .delete]
  let plan ← query.writePlan encoder
  if query.action = .update then
    let update ← query.changes.update encoder
    return .update query.schema plan (mergeUpdate update query.customUpdate)
  else return .delete query.schema plan

end Query

end DocQuery
