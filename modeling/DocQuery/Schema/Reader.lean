import DocQuery.Json.Parser
import DocQuery.Query.Reader
import DocQuery.Schema.Change

/-!
# Reading schema changes from JSON

Records and variants as for queries; custom nodes have no JSON form.
-/

namespace DocQuery

namespace DataType

/-- The data types that are written by their names. -/
def byName : List (String × DataType) :=
  [("bool", .bool), ("int8", .int8), ("int16", .int16), ("int32", .int32), ("int64", .int64),
    ("uint8", .uint8), ("uint16", .uint16), ("uint32", .uint32), ("uint64", .uint64),
    ("float", .float), ("double", .double), ("string", .string), ("date", .date),
    ("datetime", .datetime), ("time", .time), ("uuid", .uuid), ("data", .data), ("json", .json)]

/-- A data type below a number of containers. -/
def ofJsonWithin? : Nat → Json → Option DataType
  | 0, _ => none
  | fuel + 1, form => do
      let variant ← form.variant?
      match variant.name with
      | "array" => return .array (← Json.orNull? (ofJsonWithin? fuel) (← variant.content))
      | "dictionary" => return .dictionary (← Json.orNull? (ofJsonWithin? fuel) (← variant.content))
      | "enum" => do
          let record ← (← variant.content).record? ["name", "cases"]
          return .enumeration (← record.required? "name" Json.asString?)
            (← record.required? "cases" (Json.listOf? Json.asString?))
      | _ => form.bareVariant? byName

/-- A data type. -/
def ofJson? (form : Json) : Option DataType := ofJsonWithin? (form.depth + 1) form

end DataType

/-- A constraint on a field. -/
def FieldConstraint.ofJson? (json : Json) : Option FieldConstraint := do
  let variant ← json.variant?
  match variant.name with
  | "required" => if variant.isBare then some .required else none
  | "identifier" => do
      let record ← (← variant.content).record? ["auto"]
      return .identifier (← record.flag? "auto")
  | _ => none

/-- A field to create. -/
def FieldDefinition.ofJson? (json : Json) : Option FieldDefinition := do
  let record ← json.record? ["name", "data_type", "constraints"]
  return ⟨← record.required? "name" Key.ofJson?, ← record.required? "data_type" DataType.ofJson?,
    ← record.orDefault? "constraints" [] (Json.listOf? FieldConstraint.ofJson?)⟩

/-- A field whose type changes. -/
def FieldUpdate.ofJson? (json : Json) : Option FieldUpdate := do
  let record ← json.record? ["name", "data_type"]
  return ⟨← record.required? "name" Key.ofJson?, ← record.required? "data_type" DataType.ofJson?⟩

/-- A constraint on a collection. -/
def SchemaConstraint.ofJson? (json : Json) : Option SchemaConstraint := do
  let variant ← json.variant?
  match variant.name with
  | "unique" => do
      let record ← (← variant.content).record? ["fields", "name"]
      return .unique (← record.required? "fields" (Json.listOf? Key.ofJson?))
        (← record.optional? "name" Json.asString?)
  | _ => none

/-- What becomes of a collection. -/
def SchemaAction.ofJson? : Json → Option SchemaAction :=
  Json.bareVariant? [("create", .create), ("update", .update), ("delete", .delete)]

/-- The parts of a schema change in the order of its array form. -/
def SchemaChange.partNames : List String :=
  ["schema", "action", "create_fields", "update_fields", "delete_fields", "constraints"]

/-- A schema change; every part of it has a default. -/
def SchemaChange.ofJson? (json : Json) : Option SchemaChange := do
  let record ← json.record? SchemaChange.partNames
  return {
    schema := ← record.orDefault? "schema" "" Json.asString?
    action := ← record.orDefault? "action" .create SchemaAction.ofJson?
    createFields := ← record.orDefault? "create_fields" [] (Json.listOf? FieldDefinition.ofJson?)
    updateFields := ← record.orDefault? "update_fields" [] (Json.listOf? FieldUpdate.ofJson?)
    deleteFields := ← record.orDefault? "delete_fields" [] (Json.listOf? Key.ofJson?)
    constraints := ← record.orDefault? "constraints" []
      (Json.listOf? SchemaConstraint.ofJson?) }

/-- The schema change that a JSON text stands for. -/
def SchemaChange.ofText? (text : String) : Option SchemaChange :=
  (Json.parse? text).bind SchemaChange.ofJson?

end DocQuery
