import DocQuery.Query.Custom
import DocQuery.Query.Key

/-!
# Schema changes

A schema change creates, alters or drops one collection: the types of its fields, the required ones
and the unique indexes.
-/

namespace DocQuery

/-- The logical type of a field. -/
inductive DataType where
  | bool
  | int8
  | int16
  | int32
  | int64
  | uint8
  | uint16
  | uint32
  | uint64
  | float
  | double
  | string
  | date
  | datetime
  | time
  | uuid
  | data
  | json
  | array (element : Option DataType)
  | dictionary (element : Option DataType)
  | enumeration (name : String) (cases : List String)
  | custom (node : Custom)

/-- A constraint on a field. -/
inductive FieldConstraint where
  | required
  /-- The identity; `auto` says that the store assigns it. -/
  | identifier (auto : Bool)
  | custom (node : Custom)

/-- A field to create. -/
structure FieldDefinition where
  name : Key
  dataType : DataType
  constraints : List FieldConstraint

/-- Whether a field has to be there. -/
def FieldDefinition.isRequired (field : FieldDefinition) : Bool :=
  field.constraints.any fun constraint =>
    match constraint with
    | .required => true
    | _ => false

/-- A field whose type changes. -/
structure FieldUpdate where
  name : Key
  dataType : DataType

/-- A constraint on a collection. -/
inductive SchemaConstraint where
  /-- No two documents agree on all the fields. -/
  | unique (fields : List Key) (name : Option String)
  /-- A node that renders to an index document. -/
  | custom (node : Custom)

/-- What becomes of the collection. -/
inductive SchemaAction where
  | create
  | update
  | delete
deriving DecidableEq, Repr

/-- A change of one collection's schema. -/
structure SchemaChange where
  schema : String
  action : SchemaAction
  createFields : List FieldDefinition
  updateFields : List FieldUpdate
  deleteFields : List Key
  constraints : List SchemaConstraint

end DocQuery
