import DocQuery.Compile.Field
import DocQuery.Compile.Operand

/-!
# Predicates of filters

A filter becomes a predicate document, or none where it constrains nothing.  A group takes its
relation only where two or more of its filters constrain something.
-/

namespace DocQuery

/-- Whether a name is an operator rather than a path. -/
def isOperator (name : String) : Bool := name.toList.head? = some '$'

namespace Method

/-- The operator of a comparison. -/
def operator : Method → Compiled String
  | .equality false => .ok "$eq"
  | .equality true => .ok "$ne"
  | .order true true => .ok "$lte"
  | .order true false => .ok "$lt"
  | .order false true => .ok "$gte"
  | .order false false => .ok "$gt"
  | .subset false => .ok "$in"
  | .subset true => .ok "$nin"
  | .contains inverse location => .error (.contains inverse location)
  | .custom token => .ok token

end Method

namespace Relation

/-- The operator of a relation. -/
def operator : Relation → Compiled String
  | .and => .ok "$and"
  | .or => .ok "$or"
  | .custom token => if isOperator token then .ok token else .error (.relation token)

/-- The predicate that combines predicates: none for none, the only one itself, and the relation's
    operator over several. -/
def fold (relation : Relation) : List Document → Compiled (Option Document)
  | [] => .ok none
  | [only] => .ok (some only)
  | several => do return some [(← relation.operator, .array (several.map .document))]

end Relation

namespace Filter

mutual

/-- The predicate of a filter. -/
def predicate (encoder : Encoder) (main : String) : Filter → Compiled (Option Document)
  | .value field method operand => do
      let path ← field.storagePath main
      let op ← method.operator
      let value ← operand.encode encoder
      return some [(path, .document [(op, value)])]
  | .fields lhs method rhs => do
      let op ← method.operator
      let lhs ← lhs.reference main
      let rhs ← rhs.reference main
      return some [("$expr", .document [(op, .array [.string lhs, .string rhs])])]
  | .group filters relation => do relation.fold (← predicates encoder main filters)
  | .custom node => do
      match ← node.render with
      | .null => return none
      | .document doc => return some doc
      | other => .error (.customFilter other)
termination_by structural a => a

/-- The predicates of the filters that constrain something. -/
def predicates (encoder : Encoder) (main : String) : List Filter → Compiled (List Document)
  | [] => .ok []
  | filter :: rest => do
      let first ← predicate encoder main filter
      let others ← predicates encoder main rest
      return first.toList ++ others
termination_by structural a => a

end

end Filter

/-- The predicate of a query's filters. -/
def Query.predicate (query : Query) (encoder : Encoder) : Compiled (Option Document) := do
  query.relation.fold (← Filter.predicates encoder query.schema query.filters)

end DocQuery
