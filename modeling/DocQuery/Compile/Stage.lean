import DocQuery.Compile.Predicate

/-!
# Stages of a pipeline

The stages that joins, sorts, row windows and aggregates compile to.  A stage is a document with one
operator; the functions of namespace `Stage` build those of the store.
-/

namespace DocQuery

namespace Stage

/-- The stage that keeps the rows that satisfy a predicate. -/
def keep (predicate : Document) : Document := [("$match", .document predicate)]

/-- The stage that keeps, renames or removes fields. -/
def project (spec : Document) : Document := [("$project", .document spec)]

/-- The stage that forms groups. -/
def group (spec : Document) : Document := [("$group", .document spec)]

/-- The stage that looks up the documents of another collection. -/
def lookup (collection localField foreignField aliasName : String) : Document :=
  [("$lookup", .document
    [("from", .string collection), ("localField", .string localField),
      ("foreignField", .string foreignField), ("as", .string aliasName)])]

/-- The stage that makes a row of each item of an array. -/
def unwind (aliasName : String) (preserve : Bool) : Document :=
  [("$unwind", .document
    [("path", .string ("$" ++ aliasName)), ("preserveNullAndEmptyArrays", .boolean preserve)])]

/-- The stage that keeps only the identity of each row. -/
def idOnly : Document := project [(idName, .int32 1)]

end Stage

/-- The stages of a rendered list of stages: one document, or an array of them. -/
def Custom.stages (node : Custom) (wrongStage wrong : Value → CompileError) :
    Compiled (List Document) := do
  match ← node.render with
  | .document stage => return [stage]
  | .array items =>
      items.mapM fun item =>
        match item with
        | .document stage => .ok stage
        | other => .error (wrongStage other)
  | other => .error (wrong other)

namespace Join

/-- The path of a foreign field inside the joined collection, which its owner may name by the
    collection or by the alias. -/
def foreignPath (schema aliasName : String) (foreign : Field) : Compiled String :=
  if foreign.owner? = some aliasName then foreign.storagePath aliasName
  else foreign.storagePath schema

/-- The stages that follow the look-up of a method. -/
def unwindStages (aliasName : String) : JoinMethod → Compiled (List Document)
  | .left => .ok []
  | .inner => .ok [Stage.unwind aliasName false]
  | .outer => .ok [Stage.unwind aliasName true]
  | .custom token => .error (.joinMethod token)

/-- The stages of a join. -/
def stages (join : Join) (main : String) : Compiled (List Document) :=
  match join with
  | .collection schema aliasName method foreign localField => do
      let aliasName := aliasName.getD schema
      let unwinding ← unwindStages aliasName method
      let localPath ← localField.storagePath main
      let foreignPath ← foreignPath schema aliasName foreign
      return Stage.lookup schema localPath foreignPath aliasName :: unwinding
  | .custom node => node.stages .customJoinStage .customJoin

end Join

namespace Direction

/-- The stored form of a direction. -/
def stored : Direction → Compiled Value
  | .ascending => .ok (.int32 1)
  | .descending => .ok (.int32 (-1))
  | .custom node => do
      match ← node.render with
      | .int32 n => return .int32 n
      | .int64 n => return .int64 n
      | .document doc => return .document doc
      | other => .error (.sortDirection other)

end Direction

namespace SortKey

/-- The sort specification extended by a key; a path that is there keeps its place. -/
def extend (main : String) (spec : Document) : SortKey → Compiled Document
  | .field source direction => do
      let path ← source.storagePath main
      return Document.insert spec path (← direction.stored)
  | .custom node => do
      match ← node.render with
      | .document doc => return Document.insertAll spec doc
      | _ => .error .customSort

/-- The one stage that sorts by all keys, if there are any. -/
def stage (sorts : List SortKey) (main : String) : Compiled (Option Document) :=
  if sorts.isEmpty then .ok none
  else do return some [("$sort", .document (← sorts.foldlM (extend main) []))]

end SortKey

namespace RowCount

/-- The stored number of rows. -/
def stored (tooLarge : UInt64 → CompileError) (wrong : CompileError) :
    RowCount → Compiled Int64
  | .count rows =>
      if rows.toNat < Nat.pow 2 63 then .ok (Int64.ofInt rows.toNat) else .error (tooLarge rows)
  | .custom node => do
      match ← node.render with
      | .int32 n => if 0 ≤ n then return n.toInt64 else .error wrong
      | .int64 n => if 0 ≤ n then return n else .error wrong
      | _ => .error wrong

/-- The stage that keeps the first rows. -/
def limitStage (limit : RowCount) : Compiled Document := do
  return [("$limit", .int64 (← limit.stored .limitTooLarge .customLimit))]

/-- The stage that passes over the first rows. -/
def offsetStage (offset : RowCount) : Compiled Document := do
  return [("$skip", .int64 (← offset.stored .offsetTooLarge .customOffset))]

end RowCount

/-- The accumulators that can be asked for by name. -/
def namedAccumulators : List String :=
  ["addToSet", "avg", "first", "last", "max", "mergeObjects", "min", "push", "stdDevPop",
    "stdDevSamp", "sum"]

/-- The accumulator of an aggregate method.  A name may be given with or without leading marks. -/
def AggregateMethod.accumulator : AggregateMethod → Compiled String
  | .count => .error .countAccumulator
  | .sum => .ok "$sum"
  | .average => .ok "$avg"
  | .minimum => .ok "$min"
  | .maximum => .ok "$max"
  | .custom name =>
      let bare := String.ofList (name.toList.dropWhile (· = '$'))
      if bare ∈ namedAccumulators then .ok ("$" ++ bare) else .error (.aggregateMethod name)

namespace Aggregate

/-- The stages of an aggregate. -/
def stages (aggregate : Aggregate) (main : String) : Compiled (List Document) :=
  match aggregate with
  | .field _ .count => .ok [[("$count", .string aggregateResultName)]]
  | .field source method => do
      let op ← method.accumulator
      let reference ← source.reference main
      return [Stage.group
        [(idName, .null), (aggregateResultName, .document [(op, .string reference)])]]
  | .custom node => node.stages .customAggregateStage .customAggregate

end Aggregate

end DocQuery
