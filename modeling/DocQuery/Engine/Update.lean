import DocQuery.Compile.Predicate
import DocQuery.Document.Path
import DocQuery.Engine.Arithmetic
import DocQuery.Engine.Error
import DocQuery.Value.Order

/-!
# Applying updates

An update document is applied operator by operator and path by path, in order.
-/

namespace DocQuery

namespace Update

/-- The place of an array in a document: the items there, and the document with others in their
    place. -/
structure Slot where
  items : List Value
  fill : List Value → Document

/-- The slot at the end of a path that leads through documents to an array. -/
def slotAt? : Document → Path → Option Slot
  | _, [] => none
  | doc, [last] =>
      match Document.get? doc last with
      | some (.array items) => some ⟨items, fun items => Document.insert doc last (.array items)⟩
      | _ => none
  | doc, head :: rest =>
      match Document.get? doc head with
      | some (.document inner) =>
          (slotAt? inner rest).map fun slot =>
            ⟨slot.items, fun items => Document.insert doc head (.document (slot.fill items))⟩
      | _ => none

/-- The document with an array at a path.  An empty one is installed where there is nothing or
    null. -/
def installArray (doc : Document) (path : String) : Run Document :=
  match Document.getPath? doc path with
  | none | some .null => .ok (Document.setPath doc path (.array []))
  | some (.array _) => .ok doc
  | some other => .error (.notAnArray path other)

/-- The slot of the array at a path, which has to be there. -/
def reachArray (doc : Document) (path : String) : Run Slot :=
  match slotAt? doc (.ofString path) with
  | some slot => .ok slot
  | none => .error (.unreachable path)

/-- The slot of the array at a path, which is installed if need be. -/
def arrayAt (doc : Document) (path : String) : Run Slot := do
  let doc ← installArray doc path
  reachArray doc path

/-- The document with the number at a path, zero where there is none, increased. -/
def increment (doc : Document) (path : String) (amount : Value) : Run Document :=
  match incremented? ((Document.getPath? doc path).getD (.int32 0)) amount with
  | some next => .ok (Document.setPath doc path next)
  | none => .error (.cannotIncrement path amount)

/-- The items that an argument appends: those under `$each`, or the argument itself. -/
def appendedItems (argument : Value) : Run (List Value) :=
  match argument with
  | .document spec =>
      match Document.get? spec "$each" with
      | none => .ok [argument]
      | some (.array items) => .ok items
      | some _ => .error .eachNeedsArray
  | single => .ok [single]

/-- Items with one more behind them, unless an equal one is there. -/
def addDistinct (items : List Value) (item : Value) : List Value :=
  if items.any fun other => other.equal item then items else items ++ [item]

/-- The document with items appended to the array at a path. -/
def append (doc : Document) (path : String) (argument : Value) (distinct : Bool) :
    Run Document := do
  let added ← appendedItems argument
  let slot ← arrayAt doc path
  return slot.fill
    (if distinct then added.foldl addDistinct slot.items else slot.items ++ added)

/-- The document with every occurrence of the given items removed from the array at a path. -/
def pullAll (doc : Document) (path : String) (argument : Value) : Run Document :=
  match argument with
  | .array removed =>
      if (Document.getPath? doc path).isNone then .ok doc
      else do
        let slot ← arrayAt doc path
        return slot.fill (slot.items.filter fun item => !removed.any fun other => item.equal other)
  | other => .error (.needsArray "$pullAll" other)

/-- The document after one operator at one path. -/
def applyField (op : String) (doc : Document) (field : String × Value) : Run Document :=
  let (path, argument) := field
  if op = "$set" then .ok (Document.setPath doc path argument)
  else if op = "$unset" then .ok (Document.erasePath doc path)
  else if op = "$inc" then increment doc path argument
  else if op = "$addToSet" then append doc path argument true
  else if op = "$push" then append doc path argument false
  else if op = "$pullAll" then pullAll doc path argument
  else if isOperator op then .error (.unknownUpdateOperator op)
  else .error (.notAnUpdateOperator op)

/-- The document after one operator. -/
def applyOperator (doc : Document) (operator : String × Value) : Run Document :=
  match operator with
  | (op, .document fields) => fields.foldlM (applyField op) doc
  | (op, other) => .error (.needsFields op other)

end Update

/-- The document after an update. -/
def Document.updated (doc update : Document) : Run Document :=
  update.foldlM Update.applyOperator doc

end DocQuery
