import DocQuery.Compile.Error

/-!
# Stored paths of fields

A field is stored under the dotted path of its keys.  A field that another collection than the main
one owns lies below that collection's name.
-/

namespace DocQuery

namespace Field

/-- The dotted path of a field as seen from the main collection. -/
def storagePath (field : Field) (main : String) : Compiled String :=
  match field with
  | .path keys owner _ =>
      let segments := keys.map Key.storageName
      if segments.isEmpty then .error .emptyFieldPath
      else if segments.any (· = "") then .error (.emptySegment (Path.dotted segments))
      else
        match owner with
        | none => .ok (Path.dotted segments)
        | some owner =>
            if owner = main then .ok (Path.dotted segments)
            else .ok (owner ++ "." ++ Path.dotted segments)
  | .custom node => do
      match ← node.render with
      | .string text =>
          if text = "" then .error (.customField (.string text)) else .ok text
      | other => .error (.customField other)

/-- The path as an expression that reads it. -/
def reference (field : Field) (main : String) : Compiled String := do
  return "$" ++ (← field.storagePath main)

/-- The name of a field in projected output. -/
def outputName (field : Field) (main : String) : Compiled String :=
  match field.aliasName? with
  | some aliasName => .ok aliasName
  | none => field.storagePath main

end Field

end DocQuery
