import DocQuery.Engine.Arithmetic
import DocQuery.Engine.Predicate
import DocQuery.Engine.Sorting

/-!
# Running pipelines

A pipeline is a list of stages, each a document with one operator.  A stage turns a list of rows
into another; the only stage that looks at other collections is `$lookup`.
-/

namespace DocQuery

namespace Pipeline

/-- The description of a stage, which has to be a document. -/
def specOf (stage : String) (spec : Value) : Run Document :=
  match spec with
  | .document doc => .ok doc
  | other => .error (.stageNeedsDocument stage other)

/-- A row count, which has to be an integer and not negative. -/
def countOf (stage : String) (spec : Value) : Run Nat :=
  let natural (n : Int) : Run Nat :=
    if n < 0 then .error (.negativeCount stage n) else .ok n.toNat
  match spec with
  | .int32 n => natural n.toInt
  | .int64 n => natural n.toInt
  | other => .error (.stageNeedsInteger stage other)

/-! ## Filtering -/

/-- The rows that satisfy a predicate. -/
def keepRows (predicate : Document) : List Document → Run (List Document)
  | [] => .ok []
  | row :: rest => do
      let kept ← row.satisfies predicate
      let others ← keepRows predicate rest
      return if kept then row :: others else others

/-! ## Projection -/

/-- Whether a value removes a field. -/
def isZeroFlag : Value → Bool
  | .int32 n => n = 0
  | .int64 n => n = 0
  | .boolean value => !value
  | _ => false

/-- Whether a value keeps or removes a field, rather than computing one. -/
def isFlag : Value → Bool
  | .int32 _ | .int64 _ | .double _ | .boolean _ => true
  | _ => false

/-- Whether a projection removes fields: all its flags but the identity's do, or it has the
    identity's only. -/
def isExclusion (spec : Document) : Bool :=
  let others := spec.filter fun field => field.1 ≠ idName
  if others.isEmpty then
    match Document.get? spec idName with
    | some flag => isZeroFlag flag
    | none => false
  else others.all fun field => isZeroFlag field.2

/-- The row without the fields that a projection removes. -/
def excludeFields (spec row : Document) : Document :=
  (spec.filter fun field => !field.2.isTruthy).foldl (fun row field => row.erasePath field.1) row

/-- Whether a projection keeps the identity. -/
def keepsId (spec : Document) : Bool :=
  match Document.get? spec idName with
  | some flag => flag.isTruthy
  | none => true

/-- The projected row extended by one field of the projection. -/
def includeField (row : Document) (out : Document) (field : String × Value) : Run Document :=
  let (path, value) := field
  if isFlag value then
    if path = idName || !value.isTruthy then .ok out
    else
      match row.getPath? path with
      | some found => .ok (out.setPath path found)
      | none => .ok out
  else do return out.setPath path (← Expression.eval row value)

/-- The identity of a row as a document, if the projection keeps it. -/
def keptId (spec row : Document) : Document :=
  if keepsId spec then
    match row.id? with
    | some id => [(idName, id)]
    | none => []
  else []

/-- The row with the fields of a projection only. -/
def includeFields (spec row : Document) : Run Document :=
  spec.foldlM (includeField row) (keptId spec row)

/-- The projected rows. -/
def projectRows (spec : Document) (rows : List Document) : Run (List Document) :=
  if isExclusion spec then .ok (rows.map (excludeFields spec))
  else rows.mapM (includeFields spec)

/-! ## Grouping -/

/-- An accumulator. -/
inductive Accumulator where
  | first
  | last
  | sum
  | average
  | minimum
  | maximum
  | push
  | addToSet
deriving DecidableEq, Repr

namespace Accumulator

/-- The accumulator of an operator. -/
def ofOperator (op : String) : Run Accumulator :=
  if op = "$first" then .ok .first
  else if op = "$last" then .ok .last
  else if op = "$sum" then .ok .sum
  else if op = "$avg" then .ok .average
  else if op = "$min" then .ok .minimum
  else if op = "$max" then .ok .maximum
  else if op = "$push" then .ok .push
  else if op = "$addToSet" then .ok .addToSet
  else .error (.unknownAccumulator op)

/-- The better of the best value so far and one more; null does not count. -/
def better (wanted : Ordering) (best : Option Value) (value : Value) : Option Value :=
  if value.isNull then best
  else
    match best with
    | none => some value
    | some current => if value.order current == wanted then some value else some current

/-- The first value that no other is less (or greater) than; null without one. -/
def extreme (wanted : Ordering) (values : List Value) : Value :=
  (values.foldl (better wanted) none).getD .null

/-- The values without those that equal an earlier one. -/
def distinct (values : List Value) : List Value :=
  values.foldl (fun kept value =>
    if kept.any fun other => other.equal value then kept else kept ++ [value]) []

/-- The result over the values of a group. -/
def result (accumulator : Accumulator) (values : List Value) : Value :=
  match accumulator with
  | .first => values.head?.getD .null
  | .last => values.getLast?.getD .null
  | .sum => sumValues values
  | .average => averageValues values
  | .minimum => extreme .lt values
  | .maximum => extreme .gt values
  | .push => .array values
  | .addToSet => .array (distinct values)

end Accumulator

/-- A computed field of a group. -/
structure GroupField where
  name : String
  op : String
  expression : Value

/-- A group: its key and the values of the computed fields, row by row. -/
structure Group where
  key : Value
  rows : List (List Value)

/-- The groups with one more row, in the first group with an equal key or a new one at the end. -/
def addRow (key : Value) (values : List Value) : List Group → List Group
  | [] => [⟨key, [values]⟩]
  | group :: rest =>
      if group.key.equal key then { group with rows := group.rows ++ [values] } :: rest
      else group :: addRow key values rest

/-- The computed field that a name of a group description stands for. -/
def groupField (field : String × Value) : Run GroupField := do
  match ← specOf "$group" field.2 with
  | [(op, expression)] => return ⟨field.1, op, expression⟩
  | _ => .error (.invalidAccumulator field.1)

/-- The groups after one more row. -/
def groupRow (id : Value) (fields : List GroupField) (groups : List Group) (row : Document) :
    Run (List Group) := do
  let key ← Expression.eval row id
  let _ ← fields.mapM fun field => Accumulator.ofOperator field.op
  let values ← fields.mapM fun field => Expression.eval row field.expression
  return addRow key values groups

/-- The values of a computed field in a group. -/
def Group.column (group : Group) (position : Nat) : List Value :=
  group.rows.map fun values => (values[position]?).getD .null

/-- The results of computed fields from a position on. -/
def Group.results (group : Group) : Nat → List GroupField → Run (List (String × Value))
  | _, [] => .ok []
  | position, field :: rest => do
      let accumulator ← Accumulator.ofOperator field.op
      let others ← group.results (position + 1) rest
      return (field.name, accumulator.result (group.column position)) :: others

/-- The row of a group. -/
def Group.row (fields : List GroupField) (group : Group) : Run Document := do
  return (idName, group.key) :: (← group.results 0 fields)

/-- The rows of the groups that rows form, in order of first appearance. -/
def groupRows (spec : Document) (rows : List Document) : Run (List Document) :=
  match spec.id? with
  | none => .error .groupNeedsId
  | some id => do
      let fields ← (spec.filter fun field => field.1 ≠ idName).mapM groupField
      let groups ← rows.foldlM (groupRow id fields) []
      groups.mapM (Group.row fields)

/-! ## Replacing, sorting, counting -/

/-- The document that replaces a row. -/
def newRoot (expression : Value) (row : Document) : Run Document := do
  match ← Expression.eval row expression with
  | .document root => return root
  | other => .error (.rootNotDocument other)

/-- The documents that replace rows. -/
def replaceRows (spec : Document) (rows : List Document) : Run (List Document) :=
  match Document.get? spec "newRoot" with
  | some expression => rows.mapM (newRoot expression)
  | none => .error .replaceNeedsRoot

/-- Whether a sort direction is descending. -/
def isDescending (direction : Value) : Run Bool :=
  let ofInt (n : Int) : Run Bool :=
    if n = 1 then .ok false
    else if n = -1 then .ok true
    else .error (.unknownDirection direction)
  match direction with
  | .int32 n => ofInt n.toInt
  | .int64 n => ofInt n.toInt
  | _ => .error (.unknownDirection direction)

/-- A path to sort by. -/
structure SortPath where
  path : String
  descending : Bool

/-- The order of two rows by one path, null where there is no value. -/
def SortPath.order (key : SortPath) (a b : Document) : Ordering :=
  let order := (a.valueAt key.path).order (b.valueAt key.path)
  if key.descending then order.swap else order

/-- The order of two rows by several paths, the first difference deciding. -/
def orderRows : List SortPath → Document → Document → Ordering
  | [], _, _ => .eq
  | key :: rest, a, b => (key.order a b).then (orderRows rest a b)

/-- The sorted rows. -/
def sortRows (spec : Document) (rows : List Document) : Run (List Document) := do
  let keys ← spec.mapM fun field => do
    return (⟨field.1, ← isDescending field.2⟩ : SortPath)
  return stableSort (fun a b => orderRows keys a b == .lt) rows

/-- The number of rows under a name, or no row where there are none. -/
def countRows (spec : Value) (rows : List Document) : Run (List Document) :=
  match spec with
  | .string name =>
      if name = "" then .error (.countNeedsName spec)
      else if rows.isEmpty then .ok []
      else .ok [[(name, .int32 (Int32.ofInt (min rows.length (Nat.pow 2 31 - 1) : Nat)))]]
  | other => .error (.countNeedsName other)

/-! ## Joining -/

/-- The description of a look-up. -/
structure Lookup where
  collection : String
  localPath : String
  foreignPath : String
  aliasName : String

/-- A part of a look-up's description. -/
def lookupPart (spec : Document) (name : String) : Run String :=
  match Document.getString? spec name with
  | some text => .ok text
  | none => .error (.lookupNeeds name)

/-- The look-up that a document describes. -/
def lookupOf (spec : Document) : Run Lookup := do
  let collection ← lookupPart spec "from"
  let localPath ← lookupPart spec "localField"
  let foreignPath ← lookupPart spec "foreignField"
  let aliasName ← lookupPart spec "as"
  return { collection, localPath, foreignPath, aliasName }

/-- The values that a local value is looked up by: the items of an array, or the value itself. -/
def candidates : Value → List Value
  | .array items => items
  | single => [single]

/-- The foreign documents that a row joins. -/
def joined (lookup : Lookup) (foreign : List Document) (row : Document) : List Document :=
  let wanted := candidates (row.valueAt lookup.localPath)
  foreign.filter fun other =>
    wanted.any (Predicate.fieldEquals (other.getPath? lookup.foreignPath))

/-- The rows with the documents that they join. -/
def lookupRows (lookup : Lookup) (foreign : List Document) (rows : List Document) :
    List Document :=
  rows.map fun row =>
    row.setPath lookup.aliasName (.array ((joined lookup foreign row).map Value.document))

/-- The path of an unwinding, and whether rows without items are kept. -/
def unwindOf (spec : Value) : Run (String × Bool) := do
  let (reference, preserve) ← match spec with
    | .string reference => (.ok (reference, false) : Run (String × Bool))
    | .document doc =>
        match Document.getString? doc "path" with
        | some reference =>
            .ok (reference, (Document.getBoolean? doc "preserveNullAndEmptyArrays").getD false)
        | none => .error .unwindNeedsPath
    | other => .error (.invalidUnwind other)
  match reference.toList with
  | '$' :: path => return (String.ofList path, preserve)
  | _ => .error (.unwindPathNotReference reference)

/-- The rows of one row: one for each item of the array at the path.  A row without items is kept on
    demand only, and one with another value as it is. -/
def unwindRow (path : String) (preserve : Bool) (row : Document) : List Document :=
  match row.getPath? path with
  | some (.array []) => if preserve then [row.erasePath path] else []
  | some (.array items) => items.map fun item => row.setPath path item
  | none | some .null => if preserve then [row] else []
  | some _ => [row]

/-! ## Stages -/

/-- The rows after one stage; `source` gives the documents of a collection. -/
def runStage (source : String → List Document) (rows : List Document) (stage : Document) :
    Run (List Document) :=
  match stage with
  | [(name, spec)] =>
      if name = "$match" then do keepRows (← specOf name spec) rows
      else if name = "$project" then do projectRows (← specOf name spec) rows
      else if name = "$group" then do groupRows (← specOf name spec) rows
      else if name = "$replaceRoot" then do replaceRows (← specOf name spec) rows
      else if name = "$sort" then do sortRows (← specOf name spec) rows
      else if name = "$skip" then do return rows.drop (← countOf name spec)
      else if name = "$limit" then do return rows.take (← countOf name spec)
      else if name = "$count" then countRows spec rows
      else if name = "$lookup" then do
        let lookup ← lookupOf (← specOf name spec)
        return lookupRows lookup (source lookup.collection) rows
      else if name = "$unwind" then do
        let (path, preserve) ← unwindOf spec
        return rows.flatMap (unwindRow path preserve)
      else .error (.unknownStage name)
  | _ => .error .stageNeedsOneOperator

/-- The rows after all stages. -/
def run (source : String → List Document) (stages : List Document) (rows : List Document) :
    Run (List Document) :=
  stages.foldlM (runStage source) rows

end Pipeline

end DocQuery
