import DocQuery.Compile.Operand

/-!
# Update documents

Changes become an update document: assignments and removals under their dotted paths, or one array
operator.  A nil value is assigned, removed or passed over as the entry says.
-/

namespace DocQuery

namespace Operand

/-- The path of a key below a path. -/
def childPath (path : String) (key : Key) : String := path ++ "." ++ key.storageName

mutual

/-- The assignments of an operand at a path: those of the entries of a filled dictionary, a null
    where nil is stored, and the value itself elsewhere. -/
def assignments (encoder : Encoder) (onNil : NilPolicy) :
    String → Operand → Compiled (List (String × Value))
  | path, .dictionary (entry :: rest) => entryAssignments encoder onNil path (entry :: rest)
  | path, operand =>
      if operand.isNil then .ok (if onNil = .setNull then [(path, .null)] else [])
      else do return [(path, ← operand.encode encoder)]
termination_by structural _ a => a

/-- The assignments of the entries of a dictionary at a path. -/
def entryAssignments (encoder : Encoder) (onNil : NilPolicy) :
    String → List (Key × Operand) → Compiled (List (String × Value))
  | _, [] => .ok []
  | path, (key, operand) :: rest => do
      let first ← assignments encoder onNil (childPath path key) operand
      let others ← entryAssignments encoder onNil path rest
      return first ++ others
termination_by structural _ a => a

end

mutual

/-- The paths that an operand removes: those of its nil values, where nil is removed. -/
def removals (onNil : NilPolicy) : String → Operand → List String
  | path, .dictionary entries => entryRemovals onNil path entries
  | path, operand => if operand.isNil && onNil = .unset then [path] else []
termination_by structural _ a => a

/-- The paths that the entries of a dictionary remove. -/
def entryRemovals (onNil : NilPolicy) : String → List (Key × Operand) → List String
  | _, [] => []
  | path, (key, operand) :: rest =>
      removals onNil (childPath path key) operand ++ entryRemovals onNil path rest
termination_by structural _ a => a

end

end Operand

namespace ChangeEntry

/-- The assignments of an entry. -/
def assignments (encoder : Encoder) (entry : ChangeEntry) : Compiled (List (String × Value)) :=
  entry.operand.assignments encoder entry.onNil entry.key.storageName

/-- The paths that an entry removes. -/
def removals (entry : ChangeEntry) : List String :=
  entry.operand.removals entry.onNil entry.key.storageName

end ChangeEntry

/-- The operator of an update operation. -/
def UpdateOperation.operator : UpdateOperation → String
  | .set => "$set"
  | .addToSet => "$addToSet"
  | .push => "$push"
  | .pullAll => "$pullAll"

/-- The argument of an array operator for a value: several items to append go into `$each`, and what
    to remove is always an array. -/
def UpdateOperation.argument : UpdateOperation → Value → Value
  | .addToSet, .array items | .push, .array items => .document [("$each", .array items)]
  | .pullAll, .array items => .array items
  | .pullAll, single => .array [single]
  | _, single => single

/-- An operator with its fields, if there are any. -/
def operatorFields (operator : String) (fields : Document) : Document :=
  if fields.isEmpty then [] else [(operator, .document fields)]

/-- An update, or none where it is empty. -/
def nonEmpty (update : Document) : Option Document :=
  if update.isEmpty then none else some update

namespace Changes

/-- The update document of assignments and removals. -/
def setUpdate (encoder : Encoder) (entries : List ChangeEntry) : Compiled (Option Document) := do
  let assigned ← entries.mapM (·.assignments encoder)
  let removed := entries.flatMap ChangeEntry.removals
  return nonEmpty
    (operatorFields "$set" (Document.ofList assigned.flatten) ++
      operatorFields "$unset" (Document.ofList (removed.map fun path => (path, .null))))

/-- The update document of an array operator. -/
def arrayUpdate (encoder : Encoder) (operation : UpdateOperation) (entries : List ChangeEntry) :
    Compiled (Option Document) := do
  let fields ← entries.mapM fun entry => do
    return (entry.key.storageName, operation.argument (← entry.operand.encode encoder))
  return nonEmpty (operatorFields operation.operator (Document.ofList fields))

/-- The update document of changes, or none where nothing would change. -/
def update (encoder : Encoder) (changes : Changes) : Compiled (Option Document) :=
  if changes.operation = .set then setUpdate encoder changes.entries
  else arrayUpdate encoder changes.operation changes.entries

end Changes

/-- An update with one more operator: its fields go into those of the same operator if both are
    documents, and replace them otherwise. -/
def mergeOperator (update : Document) (operator : String) (argument : Value) : Document :=
  match Document.get? update operator, argument with
  | some (.document fields), .document extra =>
      Document.insert update operator (.document (Document.insertAll fields extra))
  | _, _ => Document.insert update operator argument

/-- A compiled update merged with a caller's own operators. -/
def mergeUpdate (compiled custom : Option Document) : Option Document :=
  match custom with
  | none | some [] => compiled
  | some operators =>
      some (operators.foldl (fun update field => mergeOperator update field.1 field.2)
        (compiled.getD []))

end DocQuery
