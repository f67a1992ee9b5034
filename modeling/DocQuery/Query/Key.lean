import DocQuery.Document

/-!
# Keys

A key names one field of a document on the query's side.  The identity and the reserved aggregate
key are keys of their own; any other key is a name, or two keys written behind one another.
-/

namespace DocQuery

/-- A logical key inside a field path. -/
inductive Key where
  | id
  | aggregate
  | name (text : String)
  | joined (first second : Key)
deriving DecidableEq, Repr

namespace Key

/-- The stored name of a key. -/
def storageName : Key → String
  | .id => idName
  | .aggregate => "aggregate"
  | .name text => text
  | .joined first second => first.storageName ++ second.storageName

/-- The key that a plain text stands for: the identity's stored name is the identity. -/
def ofString (text : String) : Key := if text = idName then .id else .name text

@[simp] theorem storageName_ofString (text : String) : (ofString text).storageName = text := by
  by_cases htext : text = idName
  · simp [ofString, htext, storageName]
  · simp [ofString, htext, storageName]

end Key

end DocQuery
