import DocQuery.Query.Basic
import DocQuery.Value.Text

/-!
# Compile errors

The reasons for which a query or a schema change has no form in the store, with their kinds and
wordings.
-/

namespace DocQuery

/-- The part of a query or schema change that has no form in the store. -/
inductive CompileErrorKind where
  | field
  | operator
  | value
  | join
  | joinMethod
  | filter
  | relation
  | sort
  | sortDirection
  | limit
  | offset
  | aggregate
  | aggregateMethod
  | action
deriving DecidableEq, Repr

/-- The short name of a kind. -/
def CompileErrorKind.name : CompileErrorKind → String
  | .field => "field"
  | .operator => "operator"
  | .value => "value"
  | .join => "join"
  | .joinMethod => "join-method"
  | .filter => "filter"
  | .relation => "filter-relation"
  | .sort => "sort"
  | .sortDirection => "sort-direction"
  | .limit => "limit"
  | .offset => "offset"
  | .aggregate => "aggregate"
  | .aggregateMethod => "aggregate-method"
  | .action => "query-action"

/-- The opening words of the messages of a kind. -/
def CompileErrorKind.title : CompileErrorKind → String
  | .field => "Unsupported field"
  | .operator => "Unsupported operator"
  | .value => "Unsupported value"
  | .join => "Unsupported join"
  | .joinMethod => "Unsupported join method"
  | .filter => "Unsupported filter"
  | .relation => "Unsupported filter relation"
  | .sort => "Unsupported sort"
  | .sortDirection => "Unsupported sort direction"
  | .limit => "Unsupported limit"
  | .offset => "Unsupported offset"
  | .aggregate => "Unsupported aggregate"
  | .aggregateMethod => "Unsupported aggregate method"
  | .action => "Unsupported query action"

/-- Why something cannot be compiled. -/
inductive CompileError where
  /-- A field without keys. -/
  | emptyFieldPath
  /-- A field with an empty key, with its dotted path. -/
  | emptySegment (path : String)
  /-- A custom field that renders to no path. -/
  | customField (rendered : Value)
  /-- The contains comparison, which the store does not have. -/
  | contains (inverse : Bool) (location : Location)
  /-- The mark for a value that the store assigns, outside the identity of a row. -/
  | misplacedDefault
  /-- An input row that is no dictionary. -/
  | rowNotDictionary
  /-- An unsigned integer past the largest signed one. -/
  | unsignedTooLarge (n : UInt64)
  /-- A custom node that does not render. -/
  | unrenderable (reason : String)
  /-- An insert of no rows. -/
  | insertWithoutRows
  /-- A unique constraint on no fields. -/
  | uniqueWithoutFields
  /-- A custom constraint that renders to a document without index keys. -/
  | constraintWithoutKey
  /-- A custom constraint that renders to no document. -/
  | customConstraint (rendered : Value)
  /-- A custom join that renders to no stages. -/
  | customJoin (rendered : Value)
  /-- A stage of a custom join that is no document. -/
  | customJoinStage (rendered : Value)
  /-- A join method by name. -/
  | joinMethod (token : String)
  /-- A custom filter that renders to no predicate. -/
  | customFilter (rendered : Value)
  /-- A relation that is no operator. -/
  | relation (token : String)
  /-- A custom sort that renders to no document. -/
  | customSort
  /-- A custom direction that renders to no direction. -/
  | sortDirection (rendered : Value)
  /-- A limit that the store's integers are too small for. -/
  | limitTooLarge (rows : UInt64)
  /-- A custom limit that renders to no row count. -/
  | customLimit
  /-- An offset that the store's integers are too small for. -/
  | offsetTooLarge (rows : UInt64)
  /-- A custom offset that renders to no row count. -/
  | customOffset
  /-- More than one aggregate. -/
  | severalAggregates
  /-- A custom aggregate that renders to no stages. -/
  | customAggregate (rendered : Value)
  /-- A stage of a custom aggregate that is no document. -/
  | customAggregateStage (rendered : Value)
  /-- The accumulator of a count. -/
  | countAccumulator
  /-- An accumulator that the store does not have. -/
  | aggregateMethod (name : String)
  /-- A query handed to the wrong entry point. -/
  | action (action : Action)

/-- The result of a compilation step. -/
abbrev Compiled (α : Type) := Except CompileError α

/-- The name of a location in messages. -/
def Location.name : Location → String
  | .start => "Prefix"
  | .finish => "Suffix"
  | .anywhere => "Anywhere"

namespace CompileError

/-- The kind of an error. -/
def kind : CompileError → CompileErrorKind
  | .emptyFieldPath | .emptySegment _ | .customField _ => .field
  | .contains _ _ => .operator
  | .misplacedDefault | .rowNotDictionary | .unsignedTooLarge _ | .unrenderable _
  | .insertWithoutRows | .uniqueWithoutFields | .constraintWithoutKey
  | .customConstraint _ => .value
  | .customJoin _ | .customJoinStage _ => .join
  | .joinMethod _ => .joinMethod
  | .customFilter _ => .filter
  | .relation _ => .relation
  | .customSort => .sort
  | .sortDirection _ => .sortDirection
  | .limitTooLarge _ | .customLimit => .limit
  | .offsetTooLarge _ | .customOffset => .offset
  | .severalAggregates | .customAggregate _ | .customAggregateStage _ => .aggregate
  | .countAccumulator | .aggregateMethod _ => .aggregateMethod
  | .action _ => .action

/-- What is said of an error after the title of its kind. -/
def detail : CompileError → String
  | .emptyFieldPath => "empty field path"
  | .emptySegment path => "empty segment in field path " ++ Text.quoted path
  | .customField rendered => "custom field rendered to " ++ rendered.text
  | .contains inverse location =>
      "contains (inverse: " ++ (if inverse then "true" else "false") ++ ", location: " ++
        location.name ++ ")"
  | .misplacedDefault =>
      "default value is only allowed for the identity of an inserted document"
  | .rowNotDictionary => "input row must be a dictionary"
  | .unsignedTooLarge n =>
      "BSON does not support unsigned integers.\n                 " ++
        "An attempt to serialize the value: " ++ toString n.toNat ++
        " in a signed type failed due to the value's size."
  | .unrenderable reason => reason
  | .insertWithoutRows => "insert without input rows"
  | .uniqueWithoutFields => "unique constraint without fields"
  | .constraintWithoutKey => "custom constraint must render to an index document with a key"
  | .customConstraint rendered => "custom constraint rendered to " ++ rendered.text
  | .customJoin rendered => "custom join rendered to " ++ rendered.text
  | .customJoinStage rendered => "custom join stage rendered to " ++ rendered.text
  | .joinMethod token => token
  | .customFilter rendered => "custom filter rendered to " ++ rendered.text
  | .relation token => token
  | .customSort => "custom sort must render to a document"
  | .sortDirection rendered => rendered.text
  | .limitTooLarge rows => toString rows.toNat
  | .customLimit => "custom limit must render to a non-negative integer"
  | .offsetTooLarge rows => toString rows.toNat
  | .customOffset => "custom offset must render to a non-negative integer"
  | .severalAggregates => "only one aggregate per query is supported"
  | .customAggregate rendered => "custom aggregate rendered to " ++ rendered.text
  | .customAggregateStage rendered => "custom aggregate stage rendered to " ++ rendered.text
  | .countAccumulator => "count has no accumulator"
  | .aggregateMethod name => name
  | .action given => given.name

/-- The wording of an error. -/
def message (error : CompileError) : String := error.kind.title ++ ": " ++ error.detail

end CompileError

/-- What a custom node renders to. -/
def Custom.render (node : Custom) : Compiled Value :=
  match node.rendering with
  | .ok value => .ok value
  | .error reason => .error (.unrenderable reason)

end DocQuery
