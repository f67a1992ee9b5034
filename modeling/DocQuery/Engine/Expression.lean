import DocQuery.Compile.Predicate
import DocQuery.Engine.Error
import DocQuery.Value.Order

/-!
# Expressions

An expression computes a value from a document: a reference reads a path, a document with one
operator applies it, arrays and other documents are computed part by part, and anything else is
itself.
-/

namespace DocQuery

namespace Expression

/-- The value of a string: the whole document, a path's value (null where there is none), or the
    string itself. -/
def evalString (doc : Document) (text : String) : Run Value :=
  if text = "$$ROOT" then .ok (.document doc)
  else
    match text.toList with
    | '$' :: '$' :: _ => .error (.unknownOperator .variable text)
    | '$' :: path => .ok (Document.valueAt doc (String.ofList path))
    | _ => .ok (.string text)

/-- The two arguments of an operator. -/
def pair (op : String) : List Value → Run (Value × Value)
  | [lhs, rhs] => .ok (lhs, rhs)
  | _ => .error (.needsTwoArguments op)

/-- Whether the order of two arguments is one that a test accepts. -/
def compareArguments (op : String) (arguments : List Value) (accept : Ordering → Bool) :
    Run Value := do
  let (lhs, rhs) ← pair op arguments
  return .boolean (accept (lhs.order rhs))

/-- The value of an operator on computed arguments. -/
def applyOperator (op : String) (arguments : List Value) : Run Value :=
  if op = "$eq" then compareArguments op arguments (· == .eq)
  else if op = "$ne" then compareArguments op arguments (· != .eq)
  else if op = "$gt" then compareArguments op arguments (· == .gt)
  else if op = "$gte" then compareArguments op arguments (· != .lt)
  else if op = "$lt" then compareArguments op arguments (· == .lt)
  else if op = "$lte" then compareArguments op arguments (· != .gt)
  else if op = "$in" then do
    let (needle, haystack) ← pair op arguments
    match haystack with
    | .array items => return .boolean (items.any fun item => item.equal needle)
    | other => .error (.needsArray op other)
  else if op = "$and" then .ok (.boolean (arguments.all Value.isTruthy))
  else if op = "$or" then .ok (.boolean (arguments.any Value.isTruthy))
  else .error (.unknownOperator .expression op)

mutual

/-- The value of an expression on a document. -/
def eval (doc : Document) : Value → Run Value
  | .string text => evalString doc text
  | .document [(op, .array items)] =>
      if isOperator op then do applyOperator op (← evalItems doc items)
      else do return .document [(op, .array (← evalItems doc items))]
  | .document [(op, argument)] =>
      if isOperator op then .error (.needsArray op argument)
      else do return .document [(op, ← eval doc argument)]
  | .document fields => do return .document (← evalFields doc fields)
  | .array items => do return .array (← evalItems doc items)
  | literal => .ok literal
termination_by structural a => a

/-- The values of expressions. -/
def evalItems (doc : Document) : List Value → Run (List Value)
  | [] => .ok []
  | item :: rest => do
      let value ← eval doc item
      let values ← evalItems doc rest
      return value :: values
termination_by structural a => a

/-- The values of named expressions. -/
def evalFields (doc : Document) : List (String × Value) → Run (List (String × Value))
  | [] => .ok []
  | (name, expression) :: rest => do
      let value ← eval doc expression
      let fields ← evalFields doc rest
      return (name, value) :: fields
termination_by structural a => a

end

end Expression

end DocQuery
