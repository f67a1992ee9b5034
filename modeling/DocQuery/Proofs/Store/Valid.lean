import DocQuery.Proofs.Store.Distinct

/-!
# Valid documents

As long as no validator is replaced, each document of a reached store passes the validator of its
collection.  Every operation checks a document before it stores it, the steps of an update that
stops half way included; a validator comes with the collection, before its first document.
-/

namespace DocQuery

namespace Collection

/-- Whether all documents of a collection pass its validator, if it has one. -/
def Valid (collection : Collection) : Prop :=
  ∀ doc ∈ collection.documents, collection.invalid? doc = none

theorem invalid?_of_rejection? {collection : Collection} {candidate : Document}
    {others : List Document} (h : collection.rejection? candidate others = none) :
    collection.invalid? candidate = none :=
  (Option.or_eq_none_iff.mp h).1

theorem invalid?_congr {collection other : Collection}
    (h : collection.validator = other.validator) (doc : Document) :
    collection.invalid? doc = other.invalid? doc := by
  rw [invalid?, invalid?, h]

theorem valid_empty : Valid .empty := List.forall_mem_nil _

theorem valid_insertMany (collection : Collection) (docs : List Document)
    (h : collection.Valid) : (collection.insertMany docs).1.Valid := by
  induction docs generalizing collection with
  | nil => exact h
  | cons doc rest ih =>
    rw [insertMany]
    cases hcheck : collection.rejection? doc collection.documents with
    | some rejection => exact h
    | none =>
      refine ih { collection with documents := collection.documents ++ [doc] } ?_
      intro other hother
      rcases List.mem_append.mp hother with hold | hnew
      · exact h other hold
      · rw [List.mem_singleton.mp hnew]
        exact invalid?_of_rejection? hcheck

/-- Wherever an update stops, the documents that it has passed and those that are left are valid:
    a changed document has passed the check. -/
theorem valid_updateFrom {collection : Collection} (filter update : Document)
    (done rest : List Document) (outcome : UpdateOutcome)
    (h : ∀ doc ∈ done ++ rest, collection.invalid? doc = none) :
    ∀ doc ∈ (collection.updateFrom filter update done outcome rest).1,
      collection.invalid? doc = none := by
  induction rest generalizing done outcome with
  | nil =>
    rw [List.append_nil] at h
    exact h
  | cons doc rest ih =>
    have hpassed : ∀ other ∈ done ++ [doc] ++ rest, collection.invalid? other = none := by
      rw [List.append_assoc]
      exact h
    rw [updateFrom]
    split
    · exact h
    · exact ih _ _ hpassed
    · exact ih _ _ hpassed
    · rename_i next hstep
      refine ih _ _ ?_
      intro other hother
      by_cases hnext : other = next
      · rw [hnext]
        exact invalid?_of_rejection? (updateStep_eq_changed hstep).2
      · have hold : other ∈ done ++ doc :: rest := by
          simp only [List.mem_append, List.mem_cons, List.mem_nil_iff, or_false] at hother ⊢
          tauto
        exact h other hold
    · exact h

theorem valid_deleteMany (collection : Collection) (filter : Document) (h : collection.Valid) :
    (collection.deleteMany filter).1.Valid := by
  unfold deleteMany
  cases hkept : keepUnmatched filter collection.documents with
  | error fault => exact List.forall_mem_nil _
  | ok kept =>
    rw [keepUnmatched_eq_ok hkept]
    exact fun doc hdoc => h doc (List.mem_filter.mp hdoc).1

theorem valid_createIndexes (collection : Collection) (indexes : List IndexSpec)
    (h : collection.Valid) : (collection.createIndexes indexes).1.Valid := by
  intro doc hdoc
  rw [documents_createIndexes] at hdoc
  rw [invalid?_congr (validator_createIndexes collection indexes)]
  exact h doc hdoc

end Collection

/-- Whether a call replaces the validator of a collection, which may have documents. -/
def StoreCall.replacesValidator : StoreCall → Bool
  | .modifyValidator _ _ => true
  | _ => false

/-- Any other call leaves valid collections. -/
theorem StoreCall.all_valid_after {call : StoreCall} (hcall : call.replacesValidator = false)
    {store : Store} (hstore : store.All Collection.Valid) :
    (call.after store).All Collection.Valid := by
  have hempty := hstore.collectionOrEmpty Collection.valid_empty
  refine all_after_of_written hstore ?_
  intro written collection hwritten
  cases call with
  | aggregate name stages options => cases hwritten
  | insertMany name docs =>
    cases hwritten
    exact Collection.valid_insertMany _ _ (hempty _)
  | updateMany name filter update =>
    obtain ⟨old, hold, hwritten⟩ := Option.map_eq_some_iff.mp hwritten
    cases hwritten
    exact Collection.valid_updateFrom filter update [] _ _ (hstore.collection hold)
  | deleteMany name filter =>
    obtain ⟨old, hold, hwritten⟩ := Option.map_eq_some_iff.mp hwritten
    cases hwritten
    exact Collection.valid_deleteMany _ _ (hstore.collection hold)
  | createCollection name validator =>
    simp only [written?] at hwritten
    split at hwritten
    · cases hwritten
    · cases hwritten
      exact List.forall_mem_nil _
  | collectionValidator name => cases hwritten
  | modifyValidator name validator => cases hcall
  | createIndexes name indexes =>
    cases hwritten
    exact Collection.valid_createIndexes _ _ (hempty _)
  | dropCollection name =>
    obtain ⟨old, hold, hwritten⟩ := Option.map_eq_some_iff.mp hwritten
    cases hwritten

/-- Whatever calls a store has seen, failed ones included, but none that replaces a validator: each
    document of a collection with a validator passes it. -/
theorem valid_of_mem_reached {calls : List StoreCall}
    (hcalls : ∀ call ∈ calls, call.replacesValidator = false) {name : String}
    {collection : Collection} (hcollection : (name, collection) ∈ (Store.reached calls).collections)
    {validator : Document} (hvalidator : collection.validator = some validator) {doc : Document}
    (hdoc : doc ∈ collection.documents) : doc.violation? validator = none := by
  have hall : (Store.reached calls).All Collection.Valid :=
    Store.all_reached_of_kept fun call hcall _ hstore =>
      call.all_valid_after (hcalls call hcall) hstore
  have hvalid := hall _ hcollection doc hdoc
  rw [Collection.invalid?, hvalidator, Option.map_eq_none_iff] at hvalid
  exact hvalid

/-- A collection whose ages are short numbers, an insert that is rejected at its second document,
    and an increment that has changed the first document when the second one outgrows the type. -/
theorem valid_of_mem_reached_users :
    ∃ collection, ("users", collection) ∈ (Store.reached
        [.createCollection "users" [("$jsonSchema", .document
            [("properties", .document [("age", .document [("bsonType", .string "int")])])])],
          .insertMany "users" [[("_id", .int32 1), ("age", .int32 30)],
            [("_id", .int32 2), ("age", .string "ten")]],
          .insertMany "users" [[("_id", .int32 3), ("age", .int32 2147483647)]],
          .updateMany "users" [] [("$inc", .document [("age", .int32 1)])]]).collections ∧
      ∃ validator, collection.validator = some validator ∧
        ∃ (hi : 0 < collection.documents.length) (hj : 1 < collection.documents.length),
          collection.documents[0].violation? validator = none ∧
            collection.documents[1].violation? validator = none := by
  generalize hcalls : [StoreCall.createCollection _ _, _, _, _] = calls
  have hshape : (Store.reached calls).collections.map (fun entry =>
      (entry.1, entry.2.validator.isSome, entry.2.documents.length)) = [("users", true, 2)] := by
    subst hcalls
    decide +kernel
  have hkept : ∀ call ∈ calls, call.replacesValidator = false := by
    subst hcalls
    simp [StoreCall.replacesValidator]
  obtain ⟨⟨name, collection⟩, hcollections, hentry⟩ := List.map_eq_singleton_iff.mp hshape
  simp only [Prod.mk.injEq] at hentry
  obtain ⟨rfl, hvalidator, hlength⟩ := hentry
  obtain ⟨validator, hvalidator⟩ := Option.isSome_iff_exists.mp hvalidator
  have hmem : ("users", collection) ∈ (Store.reached calls).collections := by
    rw [hcollections]
    exact List.mem_cons_self
  have hi : 0 < collection.documents.length := by omega
  have hj : 1 < collection.documents.length := by omega
  exact ⟨collection, hmem, validator, hvalidator, hi, hj,
    valid_of_mem_reached hkept hmem hvalidator (List.getElem_mem hi),
    valid_of_mem_reached hkept hmem hvalidator (List.getElem_mem hj)⟩

end DocQuery
