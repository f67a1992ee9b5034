import DocQuery.Compile.Error
import DocQuery.Schema.Change

/-!
# Validators and indexes

A schema change becomes a validator document and index specifications.  Creating a collection
describes its fields afresh; altering one merges the new descriptions into the validator that is
there.
-/

namespace DocQuery

/-- The operator that holds a validator's description. -/
def schemaOperator : String := "$jsonSchema"

/-- An index to create. -/
structure IndexSpec where
  keys : Document
  name : Option String
  unique : Bool

namespace IndexSpec

/-- The name of an index: the given one, or its keys with their directions. -/
def resolvedName (index : IndexSpec) : String :=
  index.name.getD ("_".intercalate (index.keys.map fun key => key.1 ++ "_" ++ key.2.text))

/-- The document that describes an index. -/
def toDocument (index : IndexSpec) : Document :=
  [("key", .document index.keys), ("name", .string index.resolvedName)] ++
    (if index.unique then [("unique", .boolean true)] else [])

/-- The index that a document describes. -/
def ofDocument (doc : Document) : Compiled IndexSpec :=
  match Document.getDocument? doc "key" with
  | some (key :: rest) =>
      .ok
        { keys := key :: rest
          name := Document.getString? doc "name"
          unique := (Document.getBoolean? doc "unique").getD false }
  | _ => .error .constraintWithoutKey

end IndexSpec

/-- What the store must do for a schema change. -/
inductive SchemaCommand where
  | create (collection : String) (validator : Document) (indexes : List IndexSpec)
  | alter (collection : String) (validator : Document) (indexes : List IndexSpec)
  | drop (collection : String)

/-- The type name of a data type in validators, where there is one. -/
def DataType.tag? : DataType → Option String
  | .bool => some "bool"
  | .json | .dictionary _ => some "object"
  | .array _ => some "array"
  | .int8 | .int16 | .int32 | .uint8 | .uint16 => some "int"
  | .int64 | .uint32 | .uint64 => some "long"
  | .string => some "string"
  | .date | .datetime | .time => some "date"
  | .float | .double => some "double"
  | .data | .uuid => some "binData"
  | .enumeration _ _ | .custom _ => none

/-- What a validator says of a field of a data type; nothing of a custom one. -/
def DataType.property (dataType : DataType) : Option Document :=
  match dataType with
  | .enumeration _ cases => some [("enum", .array (cases.map .string))]
  | other => other.tag?.map fun tag => [("bsonType", .string tag)]

namespace SchemaChange

/-- The validator of a new collection. -/
def freshValidator (fields : List FieldDefinition) : Document :=
  let properties := fields.filterMap fun field =>
    field.dataType.property.map fun property => (field.name.storageName, Value.document property)
  let required := (fields.filter (·.isRequired)).map fun field =>
    Value.string field.name.storageName
  [(schemaOperator, .document
    ([("bsonType", .string "object")] ++
      (if required.isEmpty then [] else [("required", .array required)]) ++
      [("properties", .document (Document.ofList properties))]))]

/-- The properties with the types of updated fields. -/
def updateProperties (properties : Document) (updates : List FieldUpdate) : Document :=
  updates.foldl (fun properties field =>
    match field.dataType.property with
    | some property => Document.insert properties field.name.storageName (.document property)
    | none => properties) properties

/-- A description without a required name. -/
def dropRequired (schema : Document) (name : String) : Document :=
  match Document.getArray? schema "required" with
  | some required =>
      Document.insert schema "required" (.array (required.filter fun entry =>
        entry.asString? ≠ some name))
  | none => schema

/-- A description without an empty list of required names. -/
def dropEmptyRequired (schema : Document) : Document :=
  match Document.getArray? schema "required" with
  | some [] => Document.erase schema "required"
  | _ => schema

/-- The validator after an alteration: the properties of the existing one with those of the updates
    and without the deleted fields, which are no longer required either. -/
def mergedValidator (updates : List FieldUpdate) (deletes : List Key) (existing : Option Document) :
    Document :=
  let schema := (existing.bind (Document.getDocument? · schemaOperator)).getD
    [("bsonType", .string "object")]
  let names := deletes.map Key.storageName
  let properties := updateProperties ((Document.getDocument? schema "properties").getD []) updates
  let properties := names.foldl Document.erase properties
  let schema := dropEmptyRequired (names.foldl dropRequired schema)
  [(schemaOperator, .document (Document.insert schema "properties" (.document properties)))]

end SchemaChange

/-- The index of a constraint. -/
def SchemaConstraint.index : SchemaConstraint → Compiled IndexSpec
  | .unique fields name =>
      if fields.isEmpty then .error .uniqueWithoutFields
      else
        .ok
          { keys := Document.ofList (fields.map fun field => (field.storageName, .int32 1))
            name
            unique := true }
  | .custom node => do
      match ← node.render with
      | .document doc => IndexSpec.ofDocument doc
      | other => .error (.customConstraint other)

/-- The command of a schema change; the existing validator matters to an alteration only. -/
def SchemaChange.command (change : SchemaChange) (existing : Option Document) :
    Compiled SchemaCommand :=
  match change.action with
  | .create => do
      let indexes ← change.constraints.mapM SchemaConstraint.index
      return .create change.schema (freshValidator change.createFields) indexes
  | .update => do
      let indexes ← change.constraints.mapM SchemaConstraint.index
      return .alter change.schema
        (mergedValidator change.updateFields change.deleteFields existing) indexes
  | .delete => .ok (.drop change.schema)

end DocQuery
