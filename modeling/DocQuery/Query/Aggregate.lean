import DocQuery.Query.Field

/-!
# Aggregates

An aggregate reduces the rows of a query to one row with the result under a fixed name.
-/

namespace DocQuery

/-- The name of an aggregate's result. -/
def aggregateResultName : String := "aggregateResult"

/-- How rows are reduced. -/
inductive AggregateMethod where
  | count
  | sum
  | average
  | minimum
  | maximum
  /-- An accumulator by its name. -/
  | custom (name : String)
deriving DecidableEq, Repr

/-- An aggregate. -/
inductive Aggregate where
  | field (field : Field) (method : AggregateMethod)
  | custom (node : Custom)

/-- The row that stands for the result over no rows: the count is zero, any other result is null. -/
def Aggregate.emptyRow : Aggregate → Document
  | .field _ .count => [(aggregateResultName, .int32 0)]
  | _ => [(aggregateResultName, .null)]

/-- The rows of an aggregate, where no rows stand for the empty result. -/
def Aggregate.normalizeRows (aggregate : Aggregate) (rows : List Document) : List Document :=
  if rows.isEmpty then [aggregate.emptyRow] else rows

end DocQuery
