import DocQuery.Store.Backend

/-!
# Journals

A journal stands in front of a backend.  It notes every operation before it runs, and it can be told
to lose a part of the next acknowledged insert or to break the next stream.
-/

namespace DocQuery

/-- An operation that a backend was asked for. -/
inductive StoreCall where
  | aggregate (collection : String) (pipeline : List Document) (options : ReadOptions)
  | insertMany (collection : String) (documents : List Document)
  | updateMany (collection : String) (filter update : Document)
  | deleteMany (collection : String) (filter : Document)
  | createCollection (collection : String) (validator : Document)
  | collectionValidator (collection : String)
  | modifyValidator (collection : String) (validator : Document)
  | createIndexes (collection : String) (indexes : List IndexSpec)
  | dropCollection (collection : String)

/-- A state with the operations noted so far. -/
structure Journal (σ : Type) where
  state : σ
  calls : List StoreCall
  /-- How many identities the next acknowledged insert loses. -/
  lostIds : Option Nat
  /-- After how many rows the next stream breaks. -/
  streamBreak : Option Nat

namespace Journal

variable {σ α : Type}

/-- An operation on the state behind the journal. -/
def lift (operation : Operation σ α) : Operation (Journal σ) α := fun journal =>
  let (result, state) := operation journal.state
  (result, { journal with state })

/-- Notes a call, then runs the operation. -/
def noted (call : StoreCall) (operation : Operation σ α) : Operation (Journal σ) α := do
  modify fun journal => { journal with calls := journal.calls ++ [call] }
  lift operation

/-- A stream that breaks after a number of rows, or at its end, and then goes on. -/
def breakStream (after : Nat) (stream : RowStream) : RowStream :=
  stream.take after ++ .error (.store .streamLost) :: stream.drop after

/-- Takes the order to break a stream, if there is one. -/
def takeStreamBreak : Operation (Journal σ) (Option Nat) :=
  modifyGet fun journal => (journal.streamBreak, { journal with streamBreak := none })

/-- Takes the order to lose identities, if there is one. -/
def takeLostIds : Operation (Journal σ) (Option Nat) :=
  modifyGet fun journal => (journal.lostIds, { journal with lostIds := none })

/-- A backend behind a journal. -/
def backend (inner : Backend σ) : Backend (Journal σ) where
  aggregate collection pipeline options := do
    let after ← takeStreamBreak
    let stream ← noted (.aggregate collection pipeline options)
      (inner.aggregate collection pipeline options)
    return match after with
      | some after => breakStream after stream
      | none => stream
  insertMany collection documents := do
    let lost ← takeLostIds
    let outcome ← noted (.insertMany collection documents) (inner.insertMany collection documents)
    return match lost with
      | some lost =>
          { outcome with
            insertedIds := outcome.insertedIds.take (outcome.insertedIds.length - lost) }
      | none => outcome
  updateMany collection filter update :=
    noted (.updateMany collection filter update) (inner.updateMany collection filter update)
  deleteMany collection filter :=
    noted (.deleteMany collection filter) (inner.deleteMany collection filter)
  createCollection collection validator :=
    noted (.createCollection collection validator) (inner.createCollection collection validator)
  collectionValidator collection :=
    noted (.collectionValidator collection) (inner.collectionValidator collection)
  modifyValidator collection validator :=
    noted (.modifyValidator collection validator) (inner.modifyValidator collection validator)
  createIndexes collection indexes :=
    noted (.createIndexes collection indexes) (inner.createIndexes collection indexes)
  dropCollection collection := noted (.dropCollection collection) (inner.dropCollection collection)

end Journal

end DocQuery
