import DocQuery.Engine.Update
import DocQuery.Engine.Predicate
import DocQuery.Engine.Validation
import DocQuery.Value.Same

/-!
# Collections

A collection holds documents in order of insertion, at most one validator, and indexes.  Each write
is checked against the validator, the identities and the unique indexes; the first rejected document
ends the write and leaves those before it in place.
-/

namespace DocQuery

/-- What a store reports of an insert. -/
structure InsertOutcome where
  /-- The identities of the written documents, in order. -/
  insertedIds : List Value
  writeErrors : List WriteError

/-- What a store reports of an update. -/
structure UpdateOutcome where
  matched : Nat
  modified : Nat
  writeErrors : List WriteError
deriving DecidableEq

/-- The update of nothing. -/
def UpdateOutcome.nothing : UpdateOutcome := ⟨0, 0, []⟩

/-- A collection. -/
structure Collection where
  documents : List Document
  validator : Option Document
  indexes : List IndexSpec

namespace Collection

/-- The collection without documents, validator and indexes. -/
def empty : Collection := ⟨[], none, []⟩

/-- The key of a document in an index; a missing field counts as null. -/
def indexKey (index : IndexSpec) (doc : Document) : List Value :=
  index.keys.names.map doc.valueAt

/-- Whether two index keys are equal, value by value. -/
def sameKey : List Value → List Value → Bool
  | [], [] => true
  | x :: xs, y :: ys => x.equal y && sameKey xs ys
  | _, _ => false

/-- The rejection by the validator. -/
def invalid? (collection : Collection) (candidate : Document) : Option Rejection :=
  (collection.validator.bind candidate.violation?).map .invalid

/-- The rejection for an identity that another document has. -/
def duplicateId? (candidate : Document) (others : List Document) : Option Rejection :=
  match candidate.id? with
  | none => none
  | some id =>
      if others.any fun other =>
        match other.id? with
        | some otherId => otherId.equal id
        | none => false
      then some (.duplicateId id) else none

/-- The rejection for a key of a unique index that another document has. -/
def duplicateKey? (candidate : Document) (others : List Document) (index : IndexSpec) :
    Option Rejection :=
  let key := indexKey index candidate
  if index.unique && others.any fun other => sameKey (indexKey index other) key then
    some (.duplicateKey index.resolvedName key)
  else none

/-- Why a collection does not take a document beside the others, if it does not. -/
def rejection? (collection : Collection) (candidate : Document) (others : List Document) :
    Option Rejection :=
  (collection.invalid? candidate).or
    ((duplicateId? candidate others).or
      (collection.indexes.findSome? (duplicateKey? candidate others)))

/-! ## Inserting -/

/-- The collection after documents with identities, and the report. -/
def insertMany (collection : Collection) (docs : List Document) : Collection × InsertOutcome :=
  match docs with
  | [] => (collection, ⟨[], []⟩)
  | doc :: rest =>
      match collection.rejection? doc collection.documents with
      | some rejection => (collection, ⟨[], [rejection.report]⟩)
      | none =>
          let (collection, outcome) :=
            insertMany { collection with documents := collection.documents ++ [doc] } rest
          (collection, { outcome with insertedIds := doc.id?.toList ++ outcome.insertedIds })

/-! ## Updating -/

/-- What becomes of one document. -/
inductive UpdateStep where
  /-- The document is not one of those updated. -/
  | passed
  /-- The document stays as it is. -/
  | unchanged
  | changed (next : Document)
  /-- The collection does not take the updated document. -/
  | rejected (rejection : Rejection)

/-- What becomes of a document that stands beside others. -/
def updateStep (collection : Collection) (filter update : Document) (doc : Document)
    (others : List Document) : Run UpdateStep := do
  if ← doc.satisfies filter then
    let next ← doc.updated update
    if next.same doc then return .unchanged
    else if !Value.sameOption next.id? doc.id? then return .rejected .immutableId
    else
      match collection.rejection? next others with
      | some rejection => return .rejected rejection
      | none => return .changed next
  else return .passed

/-- The documents after an update of those that are left, and the report.  A fault or a rejection
    ends the update. -/
def updateFrom (collection : Collection) (filter update : Document) (done : List Document)
    (outcome : UpdateOutcome) : List Document → List Document × Run UpdateOutcome
  | [] => (done, .ok outcome)
  | doc :: rest =>
      match collection.updateStep filter update doc (done ++ rest) with
      | .error fault => (done ++ doc :: rest, .error fault)
      | .ok .passed => updateFrom collection filter update (done ++ [doc]) outcome rest
      | .ok .unchanged =>
          updateFrom collection filter update (done ++ [doc])
            { outcome with matched := outcome.matched + 1 } rest
      | .ok (.changed next) =>
          updateFrom collection filter update (done ++ [next])
            { outcome with matched := outcome.matched + 1, modified := outcome.modified + 1 } rest
      | .ok (.rejected rejection) =>
          (done ++ doc :: rest,
            .ok { outcome with
              matched := outcome.matched + 1
              writeErrors := outcome.writeErrors ++ [rejection.report] })

/-- The collection after an update of the documents that satisfy a filter, and the report. -/
def updateMany (collection : Collection) (filter update : Document) :
    Collection × Run UpdateOutcome :=
  let (documents, outcome) := collection.updateFrom filter update [] .nothing collection.documents
  ({ collection with documents }, outcome)

/-! ## Deleting -/

/-- The documents that do not satisfy a filter. -/
def keepUnmatched (filter : Document) : List Document → Run (List Document)
  | [] => .ok []
  | doc :: rest => do
      let dropped ← doc.satisfies filter
      let kept ← keepUnmatched filter rest
      return if dropped then kept else doc :: kept

/-- The collection without the documents that satisfy a filter, and their number.  The documents are
    taken out before they are looked at, so a fault loses them all. -/
def deleteMany (collection : Collection) (filter : Document) : Collection × Run Nat :=
  match keepUnmatched filter collection.documents with
  | .ok kept =>
      ({ collection with documents := kept }, .ok (collection.documents.length - kept.length))
  | .error fault => ({ collection with documents := [] }, .error fault)

/-! ## Indexes -/

/-- The first key that an earlier document has too. -/
def repeatedKey? : List (List Value) → List (List Value) → Option (List Value)
  | _, [] => none
  | earlier, key :: rest =>
      if earlier.any fun other => sameKey other key then some key
      else repeatedKey? (earlier ++ [key]) rest

/-- The collection with an index in place of those of its name; a unique index needs distinct
    keys. -/
def createIndex (collection : Collection) (index : IndexSpec) : Except Rejection Collection :=
  let repeated := if index.unique then repeatedKey? [] (collection.documents.map (indexKey index))
    else none
  match repeated with
  | some key => .error (.duplicateKey index.resolvedName key)
  | none =>
      .ok { collection with
        indexes := (collection.indexes.filter fun existing =>
          existing.resolvedName ≠ index.resolvedName) ++ [index] }

/-- The collection with indexes, up to the first that cannot be created. -/
def createIndexes (collection : Collection) (indexes : List IndexSpec) :
    Collection × Option Rejection :=
  match indexes with
  | [] => (collection, none)
  | index :: rest =>
      match collection.createIndex index with
      | .ok collection => createIndexes collection rest
      | .error rejection => (collection, some rejection)

end Collection

end DocQuery
