import DocQuery.Engine.Pipeline
import DocQuery.Store.Collection

/-!
# Stores

A store holds collections by name and assigns identities to the documents that come without one.  An
operation that fails keeps what it has already done.
-/

namespace DocQuery

/-- A store. -/
structure Store where
  collections : List (String × Collection)
  /-- The number of identities that the store has assigned. -/
  assigned : Nat

/-- What runs on a state and fails with an operation error; a failure keeps the state. -/
abbrev Operation (σ α : Type) := ExceptT OperationError (StateM σ) α

namespace Store

/-- The store without collections. -/
def empty : Store := ⟨[], 0⟩

/-- The collection of a name. -/
def collection? (store : Store) (name : String) : Option Collection :=
  store.collections.lookup name

/-- The documents of a collection; one that is not there has none. -/
def documents (store : Store) (name : String) : List Document :=
  ((store.collection? name).map Collection.documents).getD []

/-- The store with a collection under a name. -/
def put (store : Store) (name : String) (collection : Collection) : Store :=
  { store with
    collections :=
      (store.collections.filter fun entry => entry.1 ≠ name) ++ [(name, collection)] }

/-- The store without a collection. -/
def remove (store : Store) (name : String) : Store :=
  { store with collections := store.collections.filter fun entry => entry.1 ≠ name }

/-- The collection of a name, or an empty one. -/
def collectionOrEmpty (store : Store) (name : String) : Collection :=
  (store.collection? name).getD .empty

/-- The leading bytes of assigned identities. -/
def assignedIdBase : Nat := 0x6a0000005d0c9e11e5000000

/-- The identity that is assigned after a number of others. -/
def assignedId (count : Nat) : ObjectId := ⟨BitVec.ofNat 96 (assignedIdBase + count)⟩

/-- Documents with identities: one without gets the next, in front of its fields. -/
def assignIds : Nat → List Document → List Document × Nat
  | count, [] => ([], count)
  | count, doc :: rest =>
      if doc.has idName then
        let (docs, count) := assignIds count rest
        (doc :: docs, count)
      else
        let (docs, count') := assignIds (count + 1) rest
        (((idName, .objectId (assignedId count)) :: doc) :: docs, count')

/-! ## Operations -/

/-- Puts documents into a collection without any check, and yields their number. -/
def seed (name : String) (docs : List Document) : Operation Store Nat := do
  let store ← get
  let collection := store.collectionOrEmpty name
  let documents := collection.documents ++ docs
  set (store.put name { collection with documents })
  return documents.length

/-- Runs a pipeline over a collection. -/
def aggregate (name : String) (stages : List Document) : Operation Store (List Document) := do
  let store ← get
  match Pipeline.run store.documents stages (store.documents name) with
  | .ok rows => return rows
  | .error fault => throw (.store fault)

/-- Inserts documents in order; the collection is there afterwards, whatever happens. -/
def insertMany (name : String) (docs : List Document) : Operation Store InsertOutcome := do
  let store ← get
  let (docs, assigned) := assignIds store.assigned docs
  let (collection, outcome) := (store.collectionOrEmpty name).insertMany docs
  set { store.put name collection with assigned }
  return outcome

/-- Updates the documents that satisfy a filter. -/
def updateMany (name : String) (filter update : Document) : Operation Store UpdateOutcome := do
  let store ← get
  match store.collection? name with
  | none => return .nothing
  | some collection =>
      let (collection, outcome) := collection.updateMany filter update
      set (store.put name collection)
      match outcome with
      | .ok outcome => return outcome
      | .error fault => throw (.store fault)

/-- Deletes the documents that satisfy a filter, and yields their number. -/
def deleteMany (name : String) (filter : Document) : Operation Store Nat := do
  let store ← get
  match store.collection? name with
  | none => return 0
  | some collection =>
      let (collection, outcome) := collection.deleteMany filter
      set (store.put name collection)
      match outcome with
      | .ok deleted => return deleted
      | .error fault => throw (.store fault)

/-- Creates a collection with a validator. -/
def createCollection (name : String) (validator : Document) : Operation Store Unit := do
  let store ← get
  match store.collection? name with
  | some _ => throw (.store (.collectionExists name))
  | none => set (store.put name { Collection.empty with validator := some validator })

/-- The collection of a name, which has to be there. -/
def requireCollection (name : String) : Operation Store Collection := do
  match (← get).collection? name with
  | some collection => return collection
  | none => throw (.collectionNotFound name)

/-- The validator of a collection. -/
def collectionValidator (name : String) : Operation Store (Option Document) := do
  return (← requireCollection name).validator

/-- Replaces the validator of a collection. -/
def modifyValidator (name : String) (validator : Document) : Operation Store Unit := do
  let collection ← requireCollection name
  modify (·.put name { collection with validator := some validator })

/-- Creates indexes in order; the collection is there afterwards, whatever happens. -/
def createIndexes (name : String) (indexes : List IndexSpec) : Operation Store Unit := do
  let store ← get
  let (collection, rejection) := (store.collectionOrEmpty name).createIndexes indexes
  set (store.put name collection)
  match rejection with
  | some rejection => throw (.duplicateKey rejection.report.message)
  | none => return ()

/-- Removes a collection. -/
def dropCollection (name : String) : Operation Store Unit := do
  let _ ← requireCollection name
  modify (·.remove name)

end Store

end DocQuery
