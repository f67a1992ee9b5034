import DocQuery.Query.Field

/-!
# Joins

A join looks up the documents of another collection whose foreign field equals a local field.
-/

namespace DocQuery

/-- What becomes of a row for the documents that it joins. -/
inductive JoinMethod where
  /-- One row, with all joined documents in an array. -/
  | left
  /-- One row for each joined document. -/
  | inner
  /-- As `inner`, and the row itself where nothing is joined. -/
  | outer
  | custom (token : String)
deriving DecidableEq, Repr

/-- A join. -/
inductive Join where
  | collection (schema : String) (aliasName : Option String) (method : JoinMethod)
      (foreignField localField : Field)
  | custom (node : Custom)

/-- The name under which joined documents appear in a row. -/
def Join.outputAlias? : Join → Option String
  | .collection schema aliasName _ _ _ => some (aliasName.getD schema)
  | .custom _ => none

end DocQuery
