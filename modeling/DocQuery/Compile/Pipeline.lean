import DocQuery.Compile.Stage

/-!
# Pipelines of queries

The stages of a read come in a fixed order: joins, filters, projection, distinct, sorts, offsets,
limits, the aggregate, and the removal of the joined documents that no requested field reads.
-/

namespace DocQuery

/-- The name under which a distinct group keeps its first document. -/
def distinctRootName : String := "document"

namespace Query

/-- The only aggregate of a query. -/
def aggregate? (query : Query) : Compiled (Option Aggregate) :=
  match query.aggregates with
  | [] => .ok none
  | [only] => .ok (some only)
  | _ => .error .severalAggregates

/-- The projection extended by a requested field: an alias reads the field's path, any other field
    is kept in place. -/
def projectField (main : String) (spec : Document) (field : Field) : Compiled Document := do
  let path ← field.storagePath main
  match field.aliasName? with
  | some aliasName => return Document.insert spec aliasName (.string ("$" ++ path))
  | none => return Document.insert spec path (.int32 1)

/-- The projection to the identity and the requested fields.  The input of an aggregate is kept
    too. -/
def projection (query : Query) (aggregate : Option Aggregate) : Compiled Document := do
  let spec ← query.rawFields.foldlM (projectField query.schema) [(idName, .int32 1)]
  match aggregate with
  | some (.field field _) =>
      let path ← field.storagePath query.schema
      return Stage.project (if Document.has spec path then spec
        else Document.insert spec path (.int32 1))
  | _ => return Stage.project spec

/-- The key of the distinct field at a position. -/
def distinctKey (position : Nat) : String := "k" ++ toString position

/-- The keys from a position on with the references to the outputs of fields. -/
def distinctKeys (main : String) : Nat → List Field → Compiled Document
  | _, [] => .ok []
  | position, field :: rest => do
      let name ← field.outputName main
      let others ← distinctKeys main (position + 1) rest
      return (distinctKey position, .string ("$" ++ name)) :: others

/-- The identity of distinct groups: the requested outputs, or the row's identity. -/
def distinctId (query : Query) : Compiled Value :=
  if query.rawFields.isEmpty then .ok (.string ("$" ++ idName))
  else do return .document (← distinctKeys query.schema 0 query.rawFields)

/-- The stages that keep the first row of each distinct group. -/
def distinctStages (query : Query) : Compiled (List Document) := do
  return [
    Stage.group [(idName, ← query.distinctId),
      (distinctRootName, .document [("$first", .string "$$ROOT")])],
    [("$replaceRoot", .document [("newRoot", .string ("$" ++ distinctRootName))])]]

/-- The stored paths of the requested fields without an alias. -/
def unaliasedPaths (query : Query) : Compiled (List String) :=
  (query.rawFields.filter fun field => field.isPath && field.aliasName?.isNone).mapM
    (·.storagePath query.schema)

/-- Whether a path is an alias or lies below it. -/
def readsAlias (aliasName path : String) : Bool :=
  path = aliasName || (aliasName ++ ".").toList.isPrefixOf path.toList

/-- The stage that removes the joined documents that no requested field reads, if there are any. -/
def aliasExclusion (query : Query) : Compiled (Option Document) :=
  if query.joins.isEmpty then .ok none
  else do
    let paths ← query.unaliasedPaths
    let unread := (query.joins.filterMap Join.outputAlias?).filter fun aliasName =>
      !paths.any (readsAlias aliasName)
    if unread.isEmpty then return none
    else
      return some (Stage.project (Document.ofList (unread.map fun unreadName =>
        (unreadName, .int32 0))))

/-- The pipeline of a query, with or without its aggregate. -/
def stages (query : Query) (encoder : Encoder) (withAggregate : Bool) :
    Compiled (List Document) := do
  let main := query.schema
  let joins ← query.joins.mapM (·.stages main)
  let predicate ← query.predicate encoder
  let aggregate ← query.aggregate?
  let projected ← if query.rawFields.isEmpty then pure []
    else do pure [← query.projection aggregate]
  let distinct ← if query.distinct then query.distinctStages else pure []
  let sort ← SortKey.stage query.sorts main
  let offsets ← query.offsets.mapM RowCount.offsetStage
  let limits ← query.limits.mapM RowCount.limitStage
  let aggregated ← match withAggregate, aggregate with
    | true, some aggregate => aggregate.stages main
    | _, _ => pure []
  let exclusion ← query.aliasExclusion
  return joins.flatten ++ (predicate.map Stage.keep).toList ++ projected ++ distinct ++
    sort.toList ++ offsets ++ limits ++ aggregated ++ exclusion.toList

end Query

end DocQuery
