import DocQuery.Document.Path
import DocQuery.Query.Custom
import DocQuery.Query.Key

/-!
# Fields

A field names a place in the documents of a query: a path of keys, the collection or join alias that
owns it, and the name under which it is put out.
-/

namespace DocQuery

/-- A reference to a stored field. -/
inductive Field where
  /-- A path of keys.  The owner qualifies the stored path where it is not the main collection; the
      alias is the name in projected output. -/
  | path (keys : List Key) (owner : Option String) (aliasName : Option String)
  | custom (node : Custom)

namespace Field

/-- The field of a single key. -/
def ofKey (key : Key) : Field := .path [key] none none

/-- The field of a dotted path. -/
def dotted (path : String) : Field := .path ((Path.ofString path).map Key.ofString) none none

/-- The identity field. -/
def id : Field := ofKey .id

/-- The field with an owner; a custom field has none. -/
def ownedBy : Field → String → Field
  | .path keys _ aliasName, owner => .path keys (some owner) aliasName
  | .custom node, _ => .custom node

/-- The field with an output name; a custom field has none. -/
def aliased : Field → String → Field
  | .path keys owner _, aliasName => .path keys owner (some aliasName)
  | .custom node, _ => .custom node

/-- The owner of a field. -/
def owner? : Field → Option String
  | .path _ owner _ => owner
  | .custom _ => none

/-- The output name given to a field. -/
def aliasName? : Field → Option String
  | .path _ _ aliasName => aliasName
  | .custom _ => none

/-- Whether a field is a path. -/
def isPath : Field → Bool
  | .path _ _ _ => true
  | .custom _ => false

end Field

end DocQuery
