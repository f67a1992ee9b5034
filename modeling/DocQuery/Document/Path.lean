import DocQuery.Document

/-!
# Dotted paths

A dotted path names a place in nested documents by its segments.  Reading follows documents only;
writing puts a fresh document in place of anything else on the way; erasing removes the last segment
where the way to it exists.
-/

namespace DocQuery

/-- The place that a dotted path names, outermost segment first. -/
abbrev Path := List String

namespace Path

/-- The segments of a list of characters, split at every dot. -/
def splitDots : List Char → List (List Char)
  | [] => [[]]
  | c :: rest =>
      match splitDots rest with
      | [] => [[c]]
      | segment :: segments =>
          if c = '.' then [] :: segment :: segments else (c :: segment) :: segments

/-- The segments of a dotted path; there is always one, which may be empty. -/
def ofString (path : String) : Path := (splitDots path.toList).map String.ofList

/-- The dotted form of a path. -/
def dotted (path : Path) : String := ".".intercalate path

end Path

namespace Document

/-- The value at a path. -/
def getAt? : Document → Path → Option Value
  | _, [] => none
  | doc, [last] => get? doc last
  | doc, head :: rest =>
      match get? doc head with
      | some (.document inner) => getAt? inner rest
      | _ => none

/-- The document with a value at a path. -/
def setAt : Document → Path → Value → Document
  | doc, [], _ => doc
  | doc, [last], value => insert doc last value
  | doc, head :: rest, value =>
      match get? doc head with
      | some (.document inner) => insert doc head (.document (setAt inner rest value))
      | _ => insert doc head (.document (setAt [] rest value))

/-- The value at a path, and the document without it. -/
def extractAt : Document → Path → Option Value × Document
  | doc, [] => (none, doc)
  | doc, [last] => (get? doc last, erase doc last)
  | doc, head :: rest =>
      match get? doc head with
      | some (.document inner) =>
          let found := extractAt inner rest
          (found.1, insert doc head (.document found.2))
      | _ => (none, doc)

/-- The document without the value at a path. -/
def eraseAt (doc : Document) (path : Path) : Document := (extractAt doc path).2

/-- The value at a dotted path. -/
def getPath? (doc : Document) (path : String) : Option Value := getAt? doc (.ofString path)

/-- The document with a value at a dotted path. -/
def setPath (doc : Document) (path : String) (value : Value) : Document :=
  setAt doc (.ofString path) value

/-- The value at a dotted path, and the document without it. -/
def extractPath (doc : Document) (path : String) : Option Value × Document :=
  extractAt doc (.ofString path)

/-- The document without the value at a dotted path. -/
def erasePath (doc : Document) (path : String) : Document := (extractPath doc path).2

/-- The value at a dotted path, null where there is none. -/
def valueAt (doc : Document) (path : String) : Value := (getPath? doc path).getD .null

end Document

end DocQuery
