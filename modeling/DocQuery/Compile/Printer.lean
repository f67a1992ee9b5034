import DocQuery.Compile.Command
import DocQuery.Compile.Schema
import DocQuery.Value.Printer

/-!
# Writing commands as JSON
-/

namespace DocQuery

/-- Documents in an array. -/
def documentsJson (docs : List Document) : Json := .array (docs.map Document.toJson)

/-- Read options; those that are not set are null. -/
def ReadOptions.toJson (options : ReadOptions) : Json := .object
  [("allow_disk_use", options.allowDiskUse.elim .null .bool),
    ("batch_size", options.batchSize.elim .null fun n => .ofInt n.toNat),
    ("max_time_ms", options.maxTimeMs.elim .null fun n => .ofInt n.toNat),
    ("comment", .ofText? options.comment)]

/-- A read. -/
def ReadCommand.toJson (command : ReadCommand) : Json := .object
  [("collection", .string command.collection), ("pipeline", documentsJson command.pipeline),
    ("options", command.options.toJson)]

/-- An insert. -/
def InsertCommand.toJson (command : InsertCommand) : Json := .object
  [("collection", .string command.collection), ("documents", documentsJson command.documents)]

/-- How a write finds its documents. -/
def WritePlan.toJson : WritePlan → Json
  | .direct filter => .object [("direct", .object [("filter", filter.toJson)])]
  | .resolveIds pipeline =>
      .object [("resolve_ids", .object [("pipeline", documentsJson pipeline)])]

/-- A write. -/
def WriteCommand.toJson : WriteCommand → Json
  | .update collection plan doc => .object [("update", .object
      [("collection", .string collection), ("plan", plan.toJson),
        ("update", doc.elim .null Document.toJson)])]
  | .delete collection plan => .object [("delete", .object
      [("collection", .string collection), ("plan", plan.toJson)])]

/-- An index. -/
def IndexSpec.toJson (index : IndexSpec) : Json := .object
  [("keys", index.keys.toJson), ("name", .ofText? index.name), ("unique", .bool index.unique)]

/-- The parts of a collection's description. -/
def descriptionJson (collection : String) (validator : Document) (indexes : List IndexSpec) :
    Json :=
  .object
    [("collection", .string collection), ("validator", validator.toJson),
      ("indexes", .array (indexes.map IndexSpec.toJson))]

/-- What a schema change asks for. -/
def SchemaCommand.toJson : SchemaCommand → Json
  | .create collection validator indexes =>
      .object [("create", descriptionJson collection validator indexes)]
  | .alter collection validator indexes =>
      .object [("alter", descriptionJson collection validator indexes)]
  | .drop collection => .object [("drop", .object [("collection", .string collection)])]

end DocQuery
