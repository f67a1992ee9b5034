import DocQuery.Proofs.Store.Insert
import DocQuery.Store.Journal

/-!
# Reachable stores

A store is reached from the empty one by calls of its operations, in any order, with any arguments
and whether they succeed or fail.  Seeding is no call: it takes documents without any check.  A
property of collections that each operation on a collection keeps holds of every collection of a
reached store.
-/

namespace DocQuery

/-- The store after a call, whether the call succeeds or fails. -/
def StoreCall.after (call : StoreCall) (store : Store) : Store :=
  match call with
  | .aggregate name stages _ => (Store.aggregate name stages store).2
  | .insertMany name docs => (Store.insertMany name docs store).2
  | .updateMany name filter update => (Store.updateMany name filter update store).2
  | .deleteMany name filter => (Store.deleteMany name filter store).2
  | .createCollection name validator => (Store.createCollection name validator store).2
  | .collectionValidator name => (Store.collectionValidator name store).2
  | .modifyValidator name validator => (Store.modifyValidator name validator store).2
  | .createIndexes name indexes => (Store.createIndexes name indexes store).2
  | .dropCollection name => (Store.dropCollection name store).2

/-- The store that calls reach from the empty one. -/
def Store.reached (calls : List StoreCall) : Store :=
  calls.foldl (fun store call => call.after store) .empty

/-- Whether all collections of a store have a property. -/
def Store.All (property : Collection → Prop) (store : Store) : Prop :=
  ∀ entry ∈ store.collections, property entry.2

/-- A property of collections that new collections have and every operation keeps.  Documents to
    insert come with an identity. -/
structure Collection.Invariant (property : Collection → Prop) : Prop where
  empty : property .empty
  create : ∀ validator, property { Collection.empty with validator := some validator }
  insertMany : ∀ collection docs, property collection → (∀ doc ∈ docs, doc.id?.isSome) →
    property (collection.insertMany docs).1
  updateMany : ∀ collection filter update, property collection →
    property (collection.updateMany filter update).1
  deleteMany : ∀ collection filter, property collection →
    property (collection.deleteMany filter).1
  modifyValidator : ∀ collection validator, property collection →
    property { collection with validator := some validator }
  createIndexes : ∀ collection indexes, property collection →
    property (collection.createIndexes indexes).1

namespace Store

variable {property : Collection → Prop} {store : Store}

theorem all_put {name : String} {collection : Collection} (hstore : store.All property)
    (hcollection : property collection) : (store.put name collection).All property := by
  intro entry hentry
  rcases mem_put.mp hentry with ⟨hold, -⟩ | rfl
  · exact hstore entry hold
  · exact hcollection

theorem all_remove (name : String) (hstore : store.All property) :
    (store.remove name).All property :=
  fun entry hentry => hstore entry (mem_remove.mp hentry).1

theorem All.collection {name : String} {collection : Collection} (hstore : store.All property)
    (hcollection : store.collection? name = some collection) : property collection :=
  hstore (name, collection) (mem_of_collection? hcollection)

theorem All.collectionOrEmpty (hstore : store.All property) (hempty : property .empty)
    (name : String) : property (store.collectionOrEmpty name) := by
  unfold Store.collectionOrEmpty
  cases hcollection : store.collection? name with
  | none => exact hempty
  | some collection => exact hstore.collection hcollection

/-- Every document to be stored has an identity, its own or an assigned one. -/
theorem id?_assignIds (count : Nat) (docs : List Document) :
    ∀ doc ∈ (assignIds count docs).1, doc.id?.isSome := by
  rw [assignIds_eq]
  exact id?_identify assignedId count docs

end Store

/-! ## What a call writes -/

/-- A store with another collection under a name, or with none. -/
def Store.replace (store : Store) (entry : String × Option Collection) : Store :=
  match entry.2 with
  | some collection => store.put entry.1 collection
  | none => store.remove entry.1

/-- What a call leaves under its name, where it writes at all: a collection, or none. -/
def StoreCall.written? (store : Store) : StoreCall → Option (String × Option Collection)
  | .aggregate _ _ _ | .collectionValidator _ => none
  | .insertMany name docs =>
      some (name,
        ((store.collectionOrEmpty name).insertMany (Store.assignIds store.assigned docs).1).1)
  | .updateMany name filter update =>
      (store.collection? name).map fun collection =>
        (name, some (collection.updateMany filter update).1)
  | .deleteMany name filter =>
      (store.collection? name).map fun collection =>
        (name, some (collection.deleteMany filter).1)
  | .createCollection name validator =>
      if (store.collection? name).isSome then none
      else some (name, some { Collection.empty with validator := some validator })
  | .modifyValidator name validator =>
      (store.collection? name).map fun collection =>
        (name, some { collection with validator := some validator })
  | .createIndexes name indexes =>
      some (name, some ((store.collectionOrEmpty name).createIndexes indexes).1)
  | .dropCollection name => (store.collection? name).map fun _ => (name, none)

/-- A call changes the collections by what it writes only. -/
theorem StoreCall.collections_after (call : StoreCall) (store : Store) :
    (call.after store).collections =
      ((call.written? store).elim store store.replace).collections := by
  cases call with
  | aggregate name stages options => rw [after, Store.aggregate_eq, written?, Option.elim_none]
  | insertMany name docs =>
    rw [after, Store.insertMany_eq, written?, Option.elim_some, Store.replace]
  | updateMany name filter update =>
    rw [after, Store.updateMany_eq, written?]
    cases store.collection? name <;> rfl
  | deleteMany name filter =>
    rw [after, Store.deleteMany_eq, written?]
    cases store.collection? name <;> rfl
  | createCollection name validator =>
    rw [after, Store.createCollection_eq, written?]
    cases store.collection? name <;> rfl
  | collectionValidator name =>
    rw [after, Store.collectionValidator_eq, written?]
    cases store.collection? name <;> rfl
  | modifyValidator name validator =>
    rw [after, Store.modifyValidator_eq, written?]
    cases store.collection? name <;> rfl
  | createIndexes name indexes => rw [after, Store.createIndexes_eq, written?]; rfl
  | dropCollection name =>
    rw [after, Store.dropCollection_eq, written?]
    cases store.collection? name <;> rfl

/-- A property that all collections have and that what a call writes has is kept by the call. -/
theorem StoreCall.all_after_of_written {property : Collection → Prop} {call : StoreCall}
    {store : Store} (hstore : store.All property)
    (hwritten : ∀ name collection, call.written? store = some (name, some collection) →
      property collection) : (call.after store).All property := by
  unfold Store.All
  rw [call.collections_after]
  cases hcall : call.written? store with
  | none => exact hstore
  | some entry =>
    obtain ⟨name, _ | collection⟩ := entry
    · exact Store.all_remove name hstore
    · exact Store.all_put hstore (hwritten name collection hcall)

/-- One call keeps an invariant. -/
theorem StoreCall.all_after {property : Collection → Prop}
    (hinvariant : Collection.Invariant property) (call : StoreCall) {store : Store}
    (hstore : store.All property) : (call.after store).All property := by
  refine all_after_of_written hstore ?_
  intro written collection hwritten
  cases call with
  | aggregate name stages options => cases hwritten
  | insertMany name docs =>
    cases hwritten
    exact hinvariant.insertMany _ _ (hstore.collectionOrEmpty hinvariant.empty _)
      (Store.id?_assignIds _ _)
  | updateMany name filter update =>
    obtain ⟨old, hold, hwritten⟩ := Option.map_eq_some_iff.mp hwritten
    cases hwritten
    exact hinvariant.updateMany _ _ _ (hstore.collection hold)
  | deleteMany name filter =>
    obtain ⟨old, hold, hwritten⟩ := Option.map_eq_some_iff.mp hwritten
    cases hwritten
    exact hinvariant.deleteMany _ _ (hstore.collection hold)
  | createCollection name validator =>
    simp only [written?] at hwritten
    split at hwritten
    · cases hwritten
    · cases hwritten
      exact hinvariant.create validator
  | collectionValidator name => cases hwritten
  | modifyValidator name validator =>
    obtain ⟨old, hold, hwritten⟩ := Option.map_eq_some_iff.mp hwritten
    cases hwritten
    exact hinvariant.modifyValidator _ _ (hstore.collection hold)
  | createIndexes name indexes =>
    cases hwritten
    exact hinvariant.createIndexes _ _ (hstore.collectionOrEmpty hinvariant.empty _)
  | dropCollection name =>
    obtain ⟨old, hold, hwritten⟩ := Option.map_eq_some_iff.mp hwritten
    cases hwritten

/-- What each call keeps, a run keeps. -/
theorem Store.all_foldl_after {property : Collection → Prop} {calls : List StoreCall}
    (hkept : ∀ call ∈ calls, ∀ store : Store, store.All property →
      (call.after store).All property) {store : Store} (hstore : store.All property) :
    (calls.foldl (fun store call => call.after store) store).All property := by
  induction calls generalizing store with
  | nil => exact hstore
  | cons call rest ih =>
    obtain ⟨hcall, hrest⟩ := List.forall_mem_cons.mp hkept
    exact ih hrest (hcall store hstore)

theorem Store.all_reached_of_kept {property : Collection → Prop} {calls : List StoreCall}
    (hkept : ∀ call ∈ calls, ∀ store : Store, store.All property →
      (call.after store).All property) : (Store.reached calls).All property :=
  all_foldl_after hkept (List.forall_mem_nil _)

/-- An invariant holds of every collection of a reached store. -/
theorem Store.all_reached {property : Collection → Prop}
    (hinvariant : Collection.Invariant property) (calls : List StoreCall) :
    (Store.reached calls).All property :=
  all_reached_of_kept fun call _ _ hstore => call.all_after hinvariant hstore

end DocQuery
