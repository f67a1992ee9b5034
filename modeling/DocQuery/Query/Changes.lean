import DocQuery.Query.Operand

/-!
# Changes

The partial update of a document: keys with their new values, and what a nil value means for a key.
-/

namespace DocQuery

/-- How the entries of an update are applied. -/
inductive UpdateOperation where
  | set
  /-- Append the array elements that are not there yet. -/
  | addToSet
  /-- Append array elements. -/
  | push
  /-- Remove every occurrence of the given array elements. -/
  | pullAll
deriving DecidableEq, Repr

/-- What a nil value means for a key. -/
inductive NilPolicy where
  /-- Store null. -/
  | setNull
  /-- Remove the field. -/
  | unset
  /-- Leave the field as it is. -/
  | ignore
deriving DecidableEq, Repr

/-- A key with its new value. -/
structure ChangeEntry where
  key : Key
  operand : Operand
  onNil : NilPolicy

/-- A partial update. -/
structure Changes where
  operation : UpdateOperation
  entries : List ChangeEntry

/-- No change. -/
def Changes.none : Changes := ⟨.set, []⟩

/-- Whether there are no entries. -/
def Changes.isEmpty (changes : Changes) : Bool := changes.entries.isEmpty

end DocQuery
