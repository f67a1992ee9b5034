import DocQuery.Proofs.Engine.Predicate
import DocQuery.Store.Backend
import Mathlib.Data.List.Basic

/-!
# What the operations of a store do

One equation for each operation that writes: its result and the store that it leaves, as the
operation of the same name on the collection.  What proofs about runs need of a store is here, and
none of them opens an operation.
-/

namespace DocQuery

namespace Collection

theorem keepUnmatched_eq_ok {filter : Document} {docs kept : List Document}
    (h : keepUnmatched filter docs = .ok kept) :
    kept = docs.filter fun doc => !doc.isMatch filter := by
  induction docs generalizing kept with
  | nil =>
    cases h
    rfl
  | cons doc rest ih =>
    obtain ⟨dropped, hdropped, h⟩ := bind_eq_ok.mp h
    obtain ⟨others, hothers, h⟩ := bind_eq_ok.mp h
    rw [List.filter_cons, Document.isMatch_of_satisfies hdropped, ← ih hothers]
    cases dropped <;> cases h <;> rfl

/-- A filter that answers of every document keeps those that do not satisfy it. -/
theorem keepUnmatched_of_answers {filter : Document} {docs : List Document}
    (h : ∀ doc ∈ docs, ∃ holds, doc.satisfies filter = .ok holds) :
    ∃ kept, keepUnmatched filter docs = .ok kept := by
  induction docs with
  | nil => exact ⟨_, rfl⟩
  | cons doc rest ih =>
    obtain ⟨⟨holds, hholds⟩, hrest⟩ := List.forall_mem_cons.mp h
    obtain ⟨kept, hkept⟩ := ih hrest
    exact ⟨_, by rw [keepUnmatched, hholds, hkept]; rfl⟩

/-- A delete that succeeds takes out the documents that satisfy its filter, and counts them. -/
theorem deleteMany_eq_ok {collection final : Collection} {filter : Document} {deleted : Nat}
    (h : collection.deleteMany filter = (final, .ok deleted)) :
    final = { collection with
      documents := collection.documents.filter fun doc => !doc.isMatch filter } ∧
    deleted = (collection.documents.filter fun doc => doc.isMatch filter).length := by
  unfold deleteMany at h
  cases hkept : keepUnmatched filter collection.documents with
  | error fault =>
    rw [hkept] at h
    cases h
  | ok kept =>
    rw [hkept] at h
    cases h
    have hlength := List.length_eq_length_filter_add
      (l := collection.documents) fun doc => doc.isMatch filter
    rw [keepUnmatched_eq_ok hkept]
    exact ⟨rfl, by omega⟩

/-- A document that an update does not pass over satisfies its filter. -/
theorem isMatch_of_updateStep {collection : Collection} {filter update doc : Document}
    {others : List Document} {step : UpdateStep}
    (h : collection.updateStep filter update doc others = .ok step) (hstep : step ≠ .passed) :
    doc.isMatch filter = true := by
  unfold updateStep at h
  obtain ⟨holds, hholds, h⟩ := bind_eq_ok.mp h
  cases holds with
  | true => exact Document.isMatch_of_satisfies hholds
  | false => exact (hstep (pure_eq_ok.mp h).symm).elim

/-- An update matches no more documents than satisfy its filter; each is looked at before it is
    changed. -/
theorem matched_updateFrom {collection : Collection} {filter update : Document}
    {done rest final : List Document} {before outcome : UpdateOutcome}
    (h : collection.updateFrom filter update done before rest = (final, .ok outcome)) :
    outcome.matched ≤ before.matched + (rest.filter fun doc => doc.isMatch filter).length := by
  induction rest generalizing done before with
  | nil =>
    cases h
    exact Nat.le_add_right _ _
  | cons doc rest ih =>
    have hmatched : ∀ step, collection.updateStep filter update doc (done ++ rest) = .ok step →
        step ≠ .passed → ((doc :: rest).filter fun doc => doc.isMatch filter).length =
          (rest.filter fun doc => doc.isMatch filter).length + 1 := by
      intro step hstep hpassed
      rw [List.filter_cons, if_pos (isMatch_of_updateStep hstep hpassed), List.length_cons]
    have hfewer : (rest.filter fun doc => doc.isMatch filter).length ≤
        ((doc :: rest).filter fun doc => doc.isMatch filter).length :=
      ((List.sublist_cons_self doc rest).filter _).length_le
    rw [updateFrom] at h
    split at h
    · cases h
    · exact Nat.le_trans (ih h) (Nat.add_le_add_left hfewer _)
    · rename_i hstep
      have hrest := ih h
      rw [hmatched _ hstep nofun]
      dsimp only at hrest
      omega
    · rename_i next hstep
      have hrest := ih h
      rw [hmatched _ hstep nofun]
      dsimp only at hrest
      omega
    · rename_i rejection hstep
      cases h
      rw [hmatched _ hstep nofun]
      dsimp only
      omega

/-! ## What operations leave as it is -/

@[simp] theorem validator_insertMany (collection : Collection) (docs : List Document) :
    (collection.insertMany docs).1.validator = collection.validator := by
  induction docs generalizing collection with
  | nil => rfl
  | cons doc rest ih =>
    rw [insertMany]
    cases collection.rejection? doc collection.documents with
    | some rejection => rfl
    | none => exact ih _

@[simp] theorem validator_updateMany (collection : Collection) (filter update : Document) :
    (collection.updateMany filter update).1.validator = collection.validator := rfl

@[simp] theorem validator_deleteMany (collection : Collection) (filter : Document) :
    (collection.deleteMany filter).1.validator = collection.validator := by
  unfold deleteMany
  cases keepUnmatched filter collection.documents <;> rfl

theorem createIndex_eq_ok {collection created : Collection} {index : IndexSpec}
    (h : collection.createIndex index = .ok created) :
    created.validator = collection.validator ∧ created.documents = collection.documents := by
  unfold createIndex at h
  dsimp only at h
  split at h
  · cases h
  · cases h
    exact ⟨rfl, rfl⟩

@[simp] theorem validator_createIndexes (collection : Collection) (indexes : List IndexSpec) :
    (collection.createIndexes indexes).1.validator = collection.validator := by
  induction indexes generalizing collection with
  | nil => rfl
  | cons index rest ih =>
    rw [createIndexes]
    cases hcreated : collection.createIndex index with
    | error rejection => rfl
    | ok created => exact (ih created).trans (createIndex_eq_ok hcreated).1

@[simp] theorem documents_createIndexes (collection : Collection) (indexes : List IndexSpec) :
    (collection.createIndexes indexes).1.documents = collection.documents := by
  induction indexes generalizing collection with
  | nil => rfl
  | cons index rest ih =>
    rw [createIndexes]
    cases hcreated : collection.createIndex index with
    | error rejection => rfl
    | ok created => exact (ih created).trans (createIndex_eq_ok hcreated).2

end Collection

namespace Store

open Operation

theorem insertMany_eq (name : String) (docs : List Document) (store : Store) :
    insertMany name docs store =
      (.ok ((store.collectionOrEmpty name).insertMany (assignIds store.assigned docs).1).2,
        { store.put name
            ((store.collectionOrEmpty name).insertMany (assignIds store.assigned docs).1).1 with
          assigned := (assignIds store.assigned docs).2 }) := rfl

theorem updateMany_eq (name : String) (filter update : Document) (store : Store) :
    updateMany name filter update store =
      match store.collection? name with
      | none => (.ok .nothing, store)
      | some collection =>
          ((collection.updateMany filter update).2.mapError .store,
            store.put name (collection.updateMany filter update).1) := by
  rw [updateMany, get_bind]
  cases store.collection? name with
  | none => rfl
  | some collection =>
    dsimp only
    generalize collection.updateMany filter update = result
    obtain ⟨collection', outcome⟩ := result
    cases outcome <;> rfl

theorem deleteMany_eq (name : String) (filter : Document) (store : Store) :
    deleteMany name filter store =
      match store.collection? name with
      | none => (.ok 0, store)
      | some collection =>
          ((collection.deleteMany filter).2.mapError .store,
            store.put name (collection.deleteMany filter).1) := by
  rw [deleteMany, get_bind]
  cases store.collection? name with
  | none => rfl
  | some collection =>
    dsimp only
    generalize collection.deleteMany filter = result
    obtain ⟨collection', outcome⟩ := result
    cases outcome <;> rfl

theorem createCollection_eq (name : String) (validator : Document) (store : Store) :
    createCollection name validator store =
      match store.collection? name with
      | none => (.ok (), store.put name { Collection.empty with validator := some validator })
      | some _ => (.error (.store (.collectionExists name)), store) := by
  rw [createCollection, get_bind]
  cases store.collection? name <;> rfl

theorem requireCollection_eq (name : String) (store : Store) :
    requireCollection name store =
      match store.collection? name with
      | none => (.error (.collectionNotFound name), store)
      | some collection => (.ok collection, store) := by
  rw [requireCollection, get_bind]
  cases store.collection? name <;> rfl

theorem modifyValidator_eq (name : String) (validator : Document) (store : Store) :
    modifyValidator name validator store =
      match store.collection? name with
      | none => (.error (.collectionNotFound name), store)
      | some collection =>
          (.ok (), store.put name { collection with validator := some validator }) := by
  rw [modifyValidator, bind_eq, requireCollection_eq]
  cases store.collection? name <;> rfl

theorem createIndexes_eq (name : String) (indexes : List IndexSpec) (store : Store) :
    createIndexes name indexes store =
      (match ((store.collectionOrEmpty name).createIndexes indexes).2 with
        | none => .ok ()
        | some rejection => .error (.duplicateKey rejection.report.message),
        store.put name ((store.collectionOrEmpty name).createIndexes indexes).1) := by
  rw [createIndexes, get_bind]
  dsimp only
  generalize (store.collectionOrEmpty name).createIndexes indexes = result
  obtain ⟨collection', rejection⟩ := result
  cases rejection <;> rfl

theorem dropCollection_eq (name : String) (store : Store) :
    dropCollection name store =
      match store.collection? name with
      | none => (.error (.collectionNotFound name), store)
      | some _ => (.ok (), store.remove name) := by
  rw [dropCollection, bind_eq, requireCollection_eq]
  cases store.collection? name <;> rfl

theorem aggregate_eq (name : String) (stages : List Document) (store : Store) :
    aggregate name stages store =
      ((Pipeline.run store.documents stages (store.documents name)).mapError .store, store) := by
  rw [aggregate, get_bind]
  cases Pipeline.run store.documents stages (store.documents name) <;> rfl

theorem collectionValidator_eq (name : String) (store : Store) :
    collectionValidator name store =
      match store.collection? name with
      | none => (.error (.collectionNotFound name), store)
      | some collection => (.ok collection.validator, store) := by
  rw [collectionValidator, bind_eq, requireCollection_eq]
  cases store.collection? name <;> rfl

/-! ## Collections of a store -/

theorem mem_put {store : Store} {name : String} {collection : Collection}
    {entry : String × Collection} :
    entry ∈ (store.put name collection).collections ↔
      (entry ∈ store.collections ∧ entry.1 ≠ name) ∨ entry = (name, collection) := by
  simp [put]

theorem mem_remove {store : Store} {name : String} {entry : String × Collection} :
    entry ∈ (store.remove name).collections ↔ entry ∈ store.collections ∧ entry.1 ≠ name := by
  simp [remove]

theorem mem_of_collection? {store : Store} {name : String} {collection : Collection}
    (h : store.collection? name = some collection) : (name, collection) ∈ store.collections := by
  unfold collection? at h
  obtain ⟨before, after, hcollections, -⟩ := List.lookup_eq_some_iff.mp h
  rw [hcollections]
  simp

theorem documents_of_some {store : Store} {name : String} {collection : Collection}
    (h : store.collection? name = some collection) :
    store.documents name = collection.documents := by
  rw [documents, h]
  rfl

theorem collectionOrEmpty_of_some {store : Store} {name : String} {collection : Collection}
    (h : store.collection? name = some collection) :
    store.collectionOrEmpty name = collection := by
  rw [collectionOrEmpty, h]
  rfl

theorem lookup_filter_self (entries : List (String × Collection)) (name : String) :
    (entries.filter fun entry => entry.1 ≠ name).lookup name = none := by
  rw [List.lookup_eq_none_iff]
  intro entry hentry
  have hne : entry.1 ≠ name := of_decide_eq_true (List.mem_filter.mp hentry).2
  exact bne_iff_ne.mpr hne.symm

theorem lookup_filter_of_ne (entries : List (String × Collection)) {name other : String}
    (hne : other ≠ name) :
    (entries.filter fun entry => entry.1 ≠ name).lookup other = entries.lookup other := by
  induction entries with
  | nil => rfl
  | cons entry rest ih =>
    obtain ⟨key, collection⟩ := entry
    by_cases hkey : key = name
    · subst hkey
      have hskip : (other == key) = false := beq_eq_false_iff_ne.mpr hne
      rw [List.filter_cons_of_neg (by simp), ih, List.lookup_cons, hskip]
    · rw [List.filter_cons_of_pos (by simpa using hkey), List.lookup_cons, List.lookup_cons, ih]

theorem collection?_put_self (store : Store) (name : String) (collection : Collection) :
    (store.put name collection).collection? name = some collection := by
  rw [collection?, put, List.lookup_append, lookup_filter_self, List.lookup_cons_self]
  rfl

theorem collection?_put_of_ne (store : Store) {name other : String} (hne : other ≠ name)
    (collection : Collection) :
    (store.put name collection).collection? other = store.collection? other := by
  have hlast : [(name, collection)].lookup other = none := by
    rw [List.lookup_cons, beq_eq_false_iff_ne.mpr hne]
    rfl
  rw [collection?, put, List.lookup_append, lookup_filter_of_ne _ hne, hlast, Option.or_none]
  rfl

/-- A delete whose filter answers of every document succeeds. -/
theorem deleteMany_of_answers {name : String} {filter : Document} {store : Store}
    (h : ∀ doc ∈ store.documents name, ∃ holds, doc.satisfies filter = .ok holds) :
    ∃ deleted final, deleteMany name filter store = (.ok deleted, final) := by
  rw [deleteMany_eq]
  cases hcollection : store.collection? name with
  | none => exact ⟨0, store, rfl⟩
  | some collection =>
    obtain ⟨kept, hkept⟩ := Collection.keepUnmatched_of_answers (documents_of_some hcollection ▸ h)
    dsimp only
    rw [Collection.deleteMany, hkept]
    exact ⟨_, _, rfl⟩

/-- An update matches no more documents than satisfy its filter. -/
theorem matched_updateMany {name : String} {filter update : Document} {store final : Store}
    {outcome : UpdateOutcome} (h : updateMany name filter update store = (.ok outcome, final)) :
    outcome.matched ≤ ((store.documents name).filter fun doc => doc.isMatch filter).length := by
  rw [updateMany_eq] at h
  cases hcollection : store.collection? name with
  | none =>
    rw [hcollection] at h
    cases h
    exact Nat.zero_le _
  | some collection =>
    rw [hcollection, Prod.mk.injEq, mapError_eq_ok] at h
    have hmatched := Collection.matched_updateFrom (Prod.ext rfl h.1)
    rw [UpdateOutcome.nothing, Nat.zero_add] at hmatched
    rw [documents_of_some hcollection]
    exact hmatched

/-- A delete that succeeds takes the documents that satisfy its filter out of its collection,
    counts them, and leaves all other collections as they are. -/
theorem deleteMany_eq_ok {name : String} {filter : Document} {store final : Store} {deleted : Nat}
    (h : deleteMany name filter store = (.ok deleted, final)) :
    final.documents name = ((store.documents name).filter fun doc => !doc.isMatch filter) ∧
    deleted = ((store.documents name).filter fun doc => doc.isMatch filter).length ∧
    ∀ other ≠ name, final.collection? other = store.collection? other := by
  rw [deleteMany_eq] at h
  cases hcollection : store.collection? name with
  | none =>
    rw [hcollection] at h
    cases h
    simp [documents, hcollection]
  | some collection =>
    rw [hcollection, Prod.mk.injEq, mapError_eq_ok] at h
    obtain ⟨hdeleted, rfl⟩ := h
    obtain ⟨hfinal, rfl⟩ := Collection.deleteMany_eq_ok (Prod.ext rfl hdeleted)
    refine ⟨?_, ?_, ?_⟩
    · simp [documents, collection?_put_self, hcollection, hfinal]
    · simp [documents, hcollection]
    · intro other hne
      exact collection?_put_of_ne store hne _

end Store

end DocQuery
