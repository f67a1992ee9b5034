import DocQuery.Binary64

/-!
# TOML documents

A document is a table whose fields may be tables again.  A table remembers how it came to be,
because that decides what a later statement may still add to it.
-/

namespace DocQuery

/-- How a table came to be. -/
inductive TableForm where
  /-- By a header of its own, or as the document. -/
  | stated
  /-- By a longer header. -/
  | implied
  /-- By a dotted key. -/
  | dotted
  /-- Between braces. -/
  | inline
deriving DecidableEq, Repr

/-- A TOML value. -/
inductive Toml where
  | string (text : String)
  | integer (n : Int)
  | real (x : Binary64)
  | boolean (value : Bool)
  /-- A date, a time of day or both, as it is written. -/
  | moment (text : String)
  | array (items : List Toml)
  | table (form : TableForm) (fields : List (String × Toml))
  /-- Tables under repeated headers, in order. -/
  | tables (entries : List (List (String × Toml)))
deriving Inhabited

/-- The fields of a table; their names are distinct. -/
abbrev TomlFields := List (String × Toml)

/-- A line of a document that says something. -/
inductive TomlStatement where
  | header (path : List String)
  | arrayHeader (path : List String)
  /-- A dotted key with its value; the last part of the key comes apart. -/
  | field (parents : List String) (name : String) (value : Toml)

namespace TomlFields

/-- The fields with a value under a name that is there. -/
def replace (fields : TomlFields) (name : String) (value : Toml) : TomlFields :=
  fields.map fun field => if field.1 = name then (name, value) else field

/-- The fields of a table after an edit of the table that a path leads to.  Tables on the way come
    to be where there are none; of repeated tables the last one is meant.  A dotted path may not
    pass a table that a header has stated, and no path may enter a value. -/
def editAt (dotted : Bool) (edit : TableForm → TomlFields → Option TomlFields) :
    List String → TableForm → TomlFields → Option TomlFields
  | [], form, fields => edit form fields
  | name :: rest, _, fields =>
      match fields.lookup name with
      | none => do
          let form := if dotted then TableForm.dotted else TableForm.implied
          return fields ++ [(name, .table form (← editAt dotted edit rest form []))]
      | some (.table form inner) =>
          if form = .inline ∨ (dotted ∧ form = .stated) then none
          else do return replace fields name (.table form (← editAt dotted edit rest form inner))
      | some (.tables entries) => do
          let last ← editAt dotted edit rest .stated (← entries.getLast?)
          return replace fields name (.tables (entries.dropLast ++ [last]))
      | some _ => none

/-- The fields with one more field under a dotted key.  The key's table has to be made by dotted
    keys where the key has several parts, and may not be where it has one. -/
def addField (parents : List String) (name : String) (value : Toml) (form : TableForm)
    (fields : TomlFields) : Option TomlFields :=
  editAt true (fun form fields =>
    if (form == .dotted) == parents.isEmpty then none
    else if (fields.lookup name).isSome then none
    else some (fields ++ [(name, value)])) parents form fields

/-- The fields with a table that a header states. -/
def stateTable (name : String) (fields : TomlFields) : Option TomlFields :=
  match fields.lookup name with
  | none => some (fields ++ [(name, .table .stated [])])
  | some (.table .implied inner) => some (replace fields name (.table .stated inner))
  | some _ => none

/-- The fields with one more of the repeated tables of a name. -/
def stateEntry (name : String) (fields : TomlFields) : Option TomlFields :=
  match fields.lookup name with
  | none => some (fields ++ [(name, .tables [[]])])
  | some (.tables entries) => some (replace fields name (.tables (entries ++ [[]])))
  | some _ => none

/-- A document in the making: its fields, and the path of the last header. -/
abbrev Draft := TomlFields × List String

/-- The fields after an edit of the last part of a header's path. -/
def editHeader (edit : String → TomlFields → Option TomlFields) (path : List String)
    (fields : TomlFields) : Option TomlFields := do
  let name ← path.getLast?
  editAt false (fun _ fields => edit name fields) path.dropLast .stated fields

/-- A document after one more statement. -/
def apply (draft : Draft) : TomlStatement → Option Draft
  | .header path => do return (← editHeader stateTable path draft.1, path)
  | .arrayHeader path => do return (← editHeader stateEntry path draft.1, path)
  | .field parents name value => do
      return (← editAt false (addField parents name value) draft.2 .stated draft.1, draft.2)

/-- The document of statements in order. -/
def ofStatements? (statements : List TomlStatement) : Option TomlFields :=
  (statements.foldlM apply ([], [])).map Prod.fst

end TomlFields

end DocQuery
