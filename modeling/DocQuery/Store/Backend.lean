import DocQuery.Compile.Command
import DocQuery.Store.Basic

/-!
# Backends

A backend is what an executor needs of a store: one operation for each thing a command may ask for.
The rows of a pipeline come as a stream, which may break off with an error.
-/

namespace DocQuery

/-- Rows in order, each of which may be an error instead. -/
abbrev RowStream := List (Except OperationError Document)

/-- The operations of a store with states of a type. -/
structure Backend (σ : Type) where
  aggregate : String → List Document → ReadOptions → Operation σ RowStream
  insertMany : String → List Document → Operation σ InsertOutcome
  updateMany : String → Document → Document → Operation σ UpdateOutcome
  deleteMany : String → Document → Operation σ Nat
  createCollection : String → Document → Operation σ Unit
  collectionValidator : String → Operation σ (Option Document)
  modifyValidator : String → Document → Operation σ Unit
  createIndexes : String → List IndexSpec → Operation σ Unit
  dropCollection : String → Operation σ Unit

/-- The store as a backend; its options change nothing, and its streams do not break off. -/
def Store.backend : Backend Store where
  aggregate name stages _ := do return (← Store.aggregate name stages).map .ok
  insertMany := Store.insertMany
  updateMany := Store.updateMany
  deleteMany := Store.deleteMany
  createCollection := Store.createCollection
  collectionValidator := Store.collectionValidator
  modifyValidator := Store.modifyValidator
  createIndexes := Store.createIndexes
  dropCollection := Store.dropCollection

namespace RowStream

/-- The rows of a stream, or its first error. -/
def collect (stream : RowStream) : Except OperationError (List Document) := stream.mapM id

/-- The rows before the first error, and that error. -/
def deliver : RowStream → List Document × Option OperationError
  | [] => ([], none)
  | .ok row :: rest =>
      let (rows, failure) := deliver rest
      (row :: rows, failure)
  | .error failure :: _ => ([], some failure)

end RowStream

/-- The identities of the rows of a stream. -/
def collectIds : RowStream → Except OperationError (List Value)
  | [] => .ok []
  | item :: rest => do
      let row ← item
      match row.id? with
      | some id => return id :: (← collectIds rest)
      | none => .error (.rowWithoutId row)

namespace Backend

variable {σ : Type}

/-- The identities that a pipeline yields. -/
def resolveIds (backend : Backend σ) (collection : String) (pipeline : List Document)
    (options : ReadOptions) : Operation σ (List Value) := do
  let stream ← backend.aggregate collection pipeline options
  liftExcept (collectIds stream)
where
  /-- A result as an operation that leaves the state as it is. -/
  liftExcept {α : Type} (result : Except OperationError α) : Operation σ α :=
    match result with
    | .ok value => return value
    | .error failure => throw failure

/-- The predicate by which a write finds the documents of its plan. -/
def targetFilter (backend : Backend σ) (collection : String) (plan : WritePlan)
    (options : ReadOptions) : Operation σ Document :=
  match plan with
  | .direct filter => return filter
  | .resolveIds pipeline => do
      return resolvedFilter (← backend.resolveIds collection pipeline options)

end Backend

end DocQuery
