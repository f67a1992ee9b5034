import DocQuery.Query.Field

/-!
# Sorts, offsets and limits
-/

namespace DocQuery

/-- The direction of a sort key. -/
inductive Direction where
  | ascending
  | descending
  | custom (node : Custom)

/-- A sort key. -/
inductive SortKey where
  | field (field : Field) (direction : Direction)
  | custom (node : Custom)

/-- A number of rows to keep or to pass over. -/
inductive RowCount where
  | count (rows : UInt64)
  | custom (node : Custom)

end DocQuery
