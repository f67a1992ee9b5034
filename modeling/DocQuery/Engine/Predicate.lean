import DocQuery.Engine.Expression

/-!
# Predicates

A predicate is a document whose entries all have to hold: a path with a condition, a logical
operator over predicates, or an expression.  Entries are looked at in order, and none behind the
first that fails.
-/

namespace DocQuery

namespace Predicate

/-- Whether a field equals a value.  A missing field equals null, and an array also equals what one
    of its items equals. -/
def fieldEquals : Option Value → Value → Bool
  | none, expected => expected.isNull
  | some actual, expected =>
      actual.equal expected ||
        match actual with
        | .array items => items.any fun item => item.equal expected
        | _ => false

/-- Whether a value and an operand of one type bracket have an order that a test accepts. -/
def orderedAs (accept : Ordering → Bool) (operand candidate : Value) : Bool :=
  candidate.sameBracket operand && accept (candidate.order operand)

/-- Whether a field has an accepted order to an operand; of an array one item has to have it. -/
def fieldOrdered (accept : Ordering → Bool) (field : Option Value) (operand : Value) : Bool :=
  match field with
  | none => false
  | some (.array items) => items.any (orderedAs accept operand)
  | some actual => orderedAs accept operand actual

/-- Whether a field equals one of the items of an operand. -/
def fieldIn (op : String) (field : Option Value) (operand : Value) : Run Bool :=
  match operand with
  | .array items => .ok (items.any (fieldEquals field))
  | other => .error (.needsArray op other)

/-- Whether a field satisfies one operator of a condition. -/
def operatorHolds (field : Option Value) (op : String) (operand : Value) : Run Bool :=
  if op = "$eq" then .ok (fieldEquals field operand)
  else if op = "$ne" then .ok (!fieldEquals field operand)
  else if op = "$gt" then .ok (fieldOrdered (· == .gt) field operand)
  else if op = "$gte" then .ok (fieldOrdered (· != .lt) field operand)
  else if op = "$lt" then .ok (fieldOrdered (· == .lt) field operand)
  else if op = "$lte" then .ok (fieldOrdered (· != .gt) field operand)
  else if op = "$in" then fieldIn op field operand
  else if op = "$nin" then (fieldIn op field operand).map (!·)
  else if op = "$exists" then .ok (field.isSome == operand.isTruthy)
  else .error (.unknownOperator .query op)

/-- Whether a field satisfies all operators in order. -/
def operatorsHold (field : Option Value) : List (String × Value) → Run Bool
  | [] => .ok true
  | (op, operand) :: rest => do
      if ← operatorHolds field op operand then operatorsHold field rest else return false

/-- Whether a condition is a document of operators, which its first name tells. -/
def isOperatorCondition : Value → Bool
  | .document ((op, _) :: _) => isOperator op
  | _ => false

/-- Whether a field satisfies a condition: a document of operators, or a value to be equal to. -/
def conditionHolds (field : Option Value) (condition : Value) : Run Bool :=
  match condition with
  | .document ops =>
      if isOperatorCondition condition then operatorsHold field ops
      else .ok (fieldEquals field condition)
  | literal => .ok (fieldEquals field literal)

/-- Whether an entry that is no logical operator holds. -/
def entryHolds (doc : Document) (name : String) (condition : Value) : Run Bool :=
  if name = "$expr" then (Expression.eval doc condition).map Value.isTruthy
  else if isOperator name then .error (.unknownOperator .query name)
  else conditionHolds (Document.getPath? doc name) condition

mutual

/-- Whether a document satisfies the entries of a predicate. -/
def holds (doc : Document) : List (String × Value) → Run Bool
  | [] => .ok true
  | (name, condition) :: rest => do
      if ← conditionOf doc name condition then holds doc rest else return false
termination_by structural a => a

/-- Whether an entry holds, given its name and its condition. -/
def conditionOf (doc : Document) (name : String) : Value → Run Bool
  | .array clauses =>
      if name = "$and" then allHold doc clauses
      else if name = "$or" then anyHolds doc clauses
      else if name = "$nor" then do return !(← anyHolds doc clauses)
      else entryHolds doc name (.array clauses)
  | condition =>
      if name = "$and" ∨ name = "$or" ∨ name = "$nor" then .error (.needsArray name condition)
      else entryHolds doc name condition
termination_by structural a => a

/-- Whether all clauses hold; none behind the first that fails is looked at. -/
def allHold (doc : Document) : List Value → Run Bool
  | [] => .ok true
  | clause :: rest => do
      if ← clauseHolds doc clause then allHold doc rest else return false
termination_by structural a => a

/-- Whether a clause holds; none behind the first that does is looked at. -/
def anyHolds (doc : Document) : List Value → Run Bool
  | [] => .ok false
  | clause :: rest => do
      if ← clauseHolds doc clause then return true else anyHolds doc rest
termination_by structural a => a

/-- Whether a clause holds, which has to be a predicate. -/
def clauseHolds (doc : Document) : Value → Run Bool
  | .document predicate => holds doc predicate
  | other => .error (.clauseNotDocument other)
termination_by structural a => a

end

end Predicate

/-- Whether a document satisfies a predicate. -/
def Document.satisfies (doc predicate : Document) : Run Bool := Predicate.holds doc predicate

end DocQuery
