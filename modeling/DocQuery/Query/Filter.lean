import DocQuery.Query.Field
import DocQuery.Query.Operand

/-!
# Filters

A filter compares a field with a value or with another field, or combines filters by a relation.
-/

namespace DocQuery

/-- Where a contained text is looked for. -/
inductive Location where
  | start
  | finish
  | anywhere
deriving DecidableEq, Repr

/-- How a field is compared. -/
inductive Method where
  | equality (inverse : Bool)
  /-- Greater, or less where inverse; equal values are included on demand. -/
  | order (inverse equality : Bool)
  | subset (inverse : Bool)
  | contains (inverse : Bool) (location : Location)
  /-- An operator by its stored name. -/
  | custom (token : String)
deriving DecidableEq, Repr

namespace Method

/-- Equal to. -/
def eq : Method := .equality false

/-- Not equal to. -/
def ne : Method := .equality true

/-- Greater than. -/
def gt : Method := .order false false

/-- Greater than or equal to. -/
def gte : Method := .order false true

/-- Less than. -/
def lt : Method := .order true false

/-- Less than or equal to. -/
def lte : Method := .order true true

/-- One of. -/
def isIn : Method := .subset false

/-- None of. -/
def notIn : Method := .subset true

end Method

/-- How filters are combined. -/
inductive Relation where
  | and
  | or
  /-- An operator by its stored name. -/
  | custom (token : String)
deriving DecidableEq, Repr

/-- A filter. -/
inductive Filter where
  | value (field : Field) (method : Method) (operand : Operand)
  | fields (lhs : Field) (method : Method) (rhs : Field)
  | group (filters : List Filter) (relation : Relation)
  | custom (node : Custom)

namespace Filter

mutual

/-- Whether a filter compares two fields anywhere. -/
def usesExpression : Filter → Bool
  | .fields _ _ _ => true
  | .group filters _ => anyUsesExpression filters
  | .value _ _ _ | .custom _ => false
termination_by structural a => a

/-- Whether one of the filters compares two fields anywhere. -/
def anyUsesExpression : List Filter → Bool
  | [] => false
  | filter :: rest => usesExpression filter || anyUsesExpression rest
termination_by structural a => a

end

end Filter

end DocQuery
