import DocQuery.Value

/-!
# Custom nodes

A custom node stands where the query model has no form of its own.  All that matters of it is what
it renders to; the place that receives it checks the shape.
-/

namespace DocQuery

/-- A caller-defined node: the value that it renders to, or why it renders to none. -/
structure Custom where
  rendering : Except String Value

namespace Custom

/-- The node that renders to a value. -/
def ofValue (value : Value) : Custom := ⟨.ok value⟩

/-- The node that fails for a reason. -/
def failing (reason : String) : Custom := ⟨.error reason⟩

end Custom

end DocQuery
