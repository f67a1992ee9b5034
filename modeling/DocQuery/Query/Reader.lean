import DocQuery.Json.Parser
import DocQuery.Json.Record
import DocQuery.Query.Basic
import DocQuery.Value.Reader

/-!
# Reading queries from JSON

Each part of a query has a JSON form: records for what has named parts, variants for what is one of
several cases.  Custom nodes have none.
-/

namespace DocQuery

/-! ## Operands -/

/-- The value that a JSON number is bound as; integers are wide. -/
def Bind.ofNumber : JsonNumber → Bind
  | .natural n => .unsigned n
  | .negative n => .value (.int64 n)
  | .real x => .value (.double x)

namespace Operand

/-- The operand that an object with one member stands for by a mark. -/
def ofMark? : List (String × Json) → Option Operand
  | [("$default", .bool true)] => some .storeDefault
  | [("$enum", .string name)] => some (.enumCase name)
  | _ => none

mutual

/-- The operand that a JSON value stands for: a mark, or the scalar, array or dictionary of the same
    shape. -/
def ofJson : Json → Operand
  | .null | .unreadable | .bytes _ _ => .null
  | .bool value => .bind (.value (.boolean value))
  | .number n => .bind (.ofNumber n)
  | .string text => .bind (.value (.string text))
  | .array items => .array (ofItems items)
  | .object members => (ofMark? members).getD (.dictionary (ofMembers members))
termination_by structural a => a

/-- The operands of array items. -/
def ofItems : List Json → List Operand
  | [] => []
  | item :: rest => ofJson item :: ofItems rest
termination_by structural a => a

/-- The dictionary entries of members. -/
def ofMembers : List (String × Json) → List (Key × Operand)
  | [] => []
  | (name, value) :: rest => (.ofString name, ofJson value) :: ofMembers rest
termination_by structural a => a

end

/-- The operand of a JSON value that can be read in all its parts; a repeated name counts once. -/
def ofJson? (json : Json) : Option Operand :=
  if json.isReadable then some (ofJson json.distinct) else none

end Operand

/-! ## Fields -/

/-- The key that a text stands for. -/
def Key.ofJson? (json : Json) : Option Key := json.asString?.map Key.ofString

/-- The field of a dotted path, alone or with its owner and alias.  Its record has no array form,
    and nothing in it is passed over unread. -/
def Field.ofJson? (json : Json) : Option Field :=
  if json.isReadable then
    match json with
    | .string text => some (.dotted text)
    | .array _ => none
    | json => do
        let record ← json.record? ["path", "schema", "alias"]
        let path ← record.required? "path" Json.asString?
        let owner ← record.optional? "schema" Json.asString?
        let aliasName ← record.optional? "alias" Json.asString?
        let field := owner.elim (Field.dotted path) (Field.dotted path).ownedBy
        return aliasName.elim field field.aliased
  else none

/-! ## Filters -/

/-- A flag of a record, which is off where it is not written. -/
def Json.Record.flag? (record : Json.Record) (name : String) : Option Bool :=
  record.orDefault? name false Json.asBool?

/-- Where a contained text is looked for. -/
def Location.ofJson? : Json → Option Location :=
  Json.bareVariant? [("prefix", .start), ("suffix", .finish), ("anywhere", .anywhere)]

/-- A comparison. -/
def Method.ofJson? (json : Json) : Option Method := do
  let variant ← json.variant?
  let content ← variant.content
  match variant.name with
  | "equality" => do
      let record ← content.record? ["inverse"]
      return .equality (← record.flag? "inverse")
  | "order" => do
      let record ← content.record? ["inverse", "equality"]
      return .order (← record.flag? "inverse") (← record.flag? "equality")
  | "subset" => do
      let record ← content.record? ["inverse"]
      return .subset (← record.flag? "inverse")
  | "contains" => do
      let record ← content.record? ["inverse", "location"]
      return .contains (← record.flag? "inverse")
        (← record.orDefault? "location" .anywhere Location.ofJson?)
  | "custom" => return .custom (← content.asString?)
  | _ => none

/-- A relation. -/
def Relation.ofJson? (json : Json) : Option Relation := do
  let variant ← json.variant?
  match variant.name with
  | "and" => if variant.isBare then some .and else none
  | "or" => if variant.isBare then some .or else none
  | "custom" => return .custom (← (← variant.content).asString?)
  | _ => none

/-- A filter below a number of groups. -/
def Filter.ofJsonWithin? : Nat → Json → Option Filter
  | 0, _ => none
  | fuel + 1, json => do
      let variant ← json.variant?
      let content ← variant.content
      match variant.name with
      | "value" => do
          let record ← content.record? ["field", "method", "value"]
          return .value (← record.required? "field" Field.ofJson?)
            (← record.required? "method" Method.ofJson?)
            (← record.required? "value" Operand.ofJson?)
      | "field" => do
          let record ← content.record? ["lhs", "method", "rhs"]
          return .fields (← record.required? "lhs" Field.ofJson?)
            (← record.required? "method" Method.ofJson?)
            (← record.required? "rhs" Field.ofJson?)
      | "group" => do
          let record ← content.record? ["filters", "relation"]
          return .group (← record.required? "filters" (Json.listOf? (ofJsonWithin? fuel)))
            (← record.orDefault? "relation" .and Relation.ofJson?)
      | _ => none

/-- A filter. -/
def Filter.ofJson? (json : Json) : Option Filter := Filter.ofJsonWithin? (json.depth + 1) json

/-! ## Joins, aggregates, sorts and windows -/

/-- A join method. -/
def JoinMethod.ofJson? (json : Json) : Option JoinMethod := do
  let variant ← json.variant?
  match variant.name with
  | "left" => if variant.isBare then some .left else none
  | "inner" => if variant.isBare then some .inner else none
  | "outer" => if variant.isBare then some .outer else none
  | "custom" => return .custom (← (← variant.content).asString?)
  | _ => none

/-- A join. -/
def Join.ofJson? (json : Json) : Option Join := do
  let variant ← json.variant?
  let content ← variant.content
  match variant.name with
  | "collection" => do
      let record ← content.record? ["schema", "alias", "method", "foreign", "local"]
      return .collection (← record.required? "schema" Json.asString?)
        (← record.optional? "alias" Json.asString?)
        (← record.required? "method" JoinMethod.ofJson?)
        (← record.required? "foreign" Field.ofJson?)
        (← record.required? "local" Field.ofJson?)
  | _ => none

/-- An aggregate method. -/
def AggregateMethod.ofJson? (json : Json) : Option AggregateMethod := do
  let variant ← json.variant?
  match variant.name with
  | "custom" => return .custom (← (← variant.content).asString?)
  | _ =>
      json.bareVariant? [("count", .count), ("sum", .sum), ("average", .average),
        ("minimum", .minimum), ("maximum", .maximum)]

/-- An aggregate. -/
def Aggregate.ofJson? (json : Json) : Option Aggregate := do
  let variant ← json.variant?
  let content ← variant.content
  match variant.name with
  | "field" => do
      let record ← content.record? ["field", "method"]
      return .field (← record.required? "field" Field.ofJson?)
        (← record.required? "method" AggregateMethod.ofJson?)
  | _ => none

/-- A requested output. -/
def Output.ofJson? (json : Json) : Option Output := do
  let variant ← json.variant?
  let content ← variant.content
  match variant.name with
  | "raw" => return .raw (← Field.ofJson? content)
  | "aggregate" => return .aggregate (← Aggregate.ofJson? content)
  | _ => none

/-- A direction. -/
def Direction.ofJson? : Json → Option Direction :=
  Json.bareVariant? [("ascending", .ascending), ("descending", .descending)]

/-- A sort key. -/
def SortKey.ofJson? (json : Json) : Option SortKey := do
  let variant ← json.variant?
  let content ← variant.content
  match variant.name with
  | "field" => do
      let record ← content.record? ["field", "direction"]
      return .field (← record.required? "field" Field.ofJson?)
        (← record.required? "direction" Direction.ofJson?)
  | _ => none

/-- A number of rows. -/
def RowCount.ofJson? (json : Json) : Option RowCount := json.asUInt64?.map .count

/-! ## Changes -/

/-- What a nil value means. -/
def NilPolicy.ofJson? : Json → Option NilPolicy :=
  Json.bareVariant? [("set_null", .setNull), ("unset", .unset), ("ignore", .ignore)]

/-- An update operation. -/
def UpdateOperation.ofJson? : Json → Option UpdateOperation :=
  Json.bareVariant?
    [("set", .set), ("add_to_set", .addToSet), ("push", .push), ("pull_all", .pullAll)]

/-- A key with its new value. -/
def ChangeEntry.ofJson? (json : Json) : Option ChangeEntry := do
  let record ← json.record? ["key", "value", "on_nil"]
  return ⟨← record.required? "key" Key.ofJson?, ← record.required? "value" Operand.ofJson?,
    ← record.orDefault? "on_nil" .setNull NilPolicy.ofJson?⟩

/-- A partial update. -/
def Changes.ofJson? (json : Json) : Option Changes := do
  let record ← json.record? ["operation", "entries"]
  return ⟨← record.orDefault? "operation" .set UpdateOperation.ofJson?,
    ← record.orDefault? "entries" [] (Json.listOf? ChangeEntry.ofJson?)⟩

/-! ## Queries -/

/-- An action. -/
def Action.ofJson? : Json → Option Action :=
  Json.bareVariant?
    [("insert", .insert), ("find", .find), ("update", .update), ("delete", .delete)]

/-- Read options. -/
def ReadOptions.ofJson? (json : Json) : Option ReadOptions := do
  let record ← json.record? ["allow_disk_use", "batch_size", "max_time_ms", "comment"]
  return ⟨← record.optional? "allow_disk_use" Json.asBool?,
    ← record.optional? "batch_size" Json.asUInt32?,
    ← record.optional? "max_time_ms" Json.asUInt64?,
    ← record.optional? "comment" Json.asString?⟩

/-- The parts of a query in the order of its array form. -/
def Query.partNames : List String :=
  ["schema", "action", "fields", "distinct", "joins", "filters", "default_relation", "input",
    "data", "custom_update", "offsets", "limits", "sorts", "options"]

/-- A query; every part of it has a default. -/
def Query.ofJson? (json : Json) : Option Query := do
  let record ← json.record? Query.partNames
  return {
    schema := ← record.orDefault? "schema" "" Json.asString?
    action := ← record.orDefault? "action" .find Action.ofJson?
    outputs := ← record.orDefault? "fields" [] (Json.listOf? Output.ofJson?)
    distinct := ← record.flag? "distinct"
    joins := ← record.orDefault? "joins" [] (Json.listOf? Join.ofJson?)
    filters := ← record.orDefault? "filters" [] (Json.listOf? Filter.ofJson?)
    relation := ← record.orDefault? "default_relation" .and Relation.ofJson?
    input := ← record.orDefault? "input" [] (Json.listOf? Operand.ofJson?)
    changes := ← record.orDefault? "data" .none Changes.ofJson?
    customUpdate := ← record.optional? "custom_update" Document.ofJson?
    offsets := ← record.orDefault? "offsets" [] (Json.listOf? RowCount.ofJson?)
    limits := ← record.orDefault? "limits" [] (Json.listOf? RowCount.ofJson?)
    sorts := ← record.orDefault? "sorts" [] (Json.listOf? SortKey.ofJson?)
    options := ← record.orDefault? "options" .none ReadOptions.ofJson? }

/-- The query that a JSON text stands for. -/
def Query.ofText? (text : String) : Option Query := (Json.parse? text).bind Query.ofJson?

end DocQuery
