import DocQuery.Proofs.Store.Reached

/-!
# Validators of a store

Which validators a store has, and what writing documents and creating indexes does to them: nothing,
but that an insert or an index puts a collection without a validator where there is none.
-/

namespace DocQuery

namespace Store

/-- The validator of a collection, where the collection is there; it may have none. -/
def validator? (store : Store) (name : String) : Option (Option Document) :=
  (store.collection? name).map Collection.validator

theorem validator_collectionOrEmpty (store : Store) (name : String) :
    (store.collectionOrEmpty name).validator = (store.validator? name).join := by
  unfold collectionOrEmpty validator?
  cases store.collection? name <;> rfl

theorem collection?_remove_self (store : Store) (name : String) :
    (store.remove name).collection? name = none :=
  lookup_filter_self store.collections name

theorem collection?_remove_of_ne (store : Store) {name other : String} (hne : other ≠ name) :
    (store.remove name).collection? other = store.collection? other :=
  lookup_filter_of_ne store.collections hne

theorem validator?_put (store : Store) (name : String) (collection : Collection)
    (other : String) :
    (store.put name collection).validator? other =
      if other = name then some collection.validator else store.validator? other := by
  unfold validator?
  by_cases hname : other = name
  · rw [hname, collection?_put_self, if_pos rfl]
    rfl
  · rw [collection?_put_of_ne store hname, if_neg hname]

theorem validator?_remove (store : Store) (name other : String) :
    (store.remove name).validator? other =
      if other = name then none else store.validator? other := by
  unfold validator?
  by_cases hname : other = name
  · rw [hname, collection?_remove_self, if_pos rfl]
    rfl
  · rw [collection?_remove_of_ne store hname, if_neg hname]

/-- Another collection with the same validator in place of one changes no validators. -/
theorem validator?_put_of_same {store : Store} {name : String} {old collection : Collection}
    (hold : store.collection? name = some old) (hsame : collection.validator = old.validator)
    (other : String) : (store.put name collection).validator? other = store.validator? other := by
  rw [validator?_put]
  by_cases hname : other = name
  · rw [if_pos hname, hname, hsame, validator?, hold]
    rfl
  · rw [if_neg hname]

theorem validator?_insertMany (name : String) (docs : List Document) (store : Store)
    (other : String) :
    (insertMany name docs store).2.validator? other =
      if other = name then some (store.validator? name).join else store.validator? other := by
  rw [insertMany_eq, ← validator_collectionOrEmpty]
  refine (validator?_put store name _ other).trans ?_
  rw [Collection.validator_insertMany]

theorem validator?_updateMany (name : String) (filter update : Document) (store : Store)
    (other : String) :
    (updateMany name filter update store).2.validator? other = store.validator? other := by
  rw [updateMany_eq]
  cases hcollection : store.collection? name with
  | none => rfl
  | some collection =>
    exact validator?_put_of_same hcollection (Collection.validator_updateMany _ _ _) other

theorem validator?_deleteMany (name : String) (filter : Document) (store : Store)
    (other : String) :
    (deleteMany name filter store).2.validator? other = store.validator? other := by
  rw [deleteMany_eq]
  cases hcollection : store.collection? name with
  | none => rfl
  | some collection =>
    exact validator?_put_of_same hcollection (Collection.validator_deleteMany _ _) other

theorem validator?_createIndexes (name : String) (indexes : List IndexSpec) (store : Store)
    (other : String) :
    (createIndexes name indexes store).2.validator? other =
      if other = name then some (store.validator? name).join else store.validator? other := by
  rw [createIndexes_eq, ← validator_collectionOrEmpty]
  refine (validator?_put store name _ other).trans ?_
  rw [Collection.validator_createIndexes]

/-! ## Operations on validators that succeed -/

variable {name : String} {validator : Document} {store final : Store}

theorem validator?_of_createCollection
    (h : createCollection name validator store = (.ok (), final)) (other : String) :
    final.validator? other =
      if other = name then some (some validator) else store.validator? other := by
  rw [createCollection_eq] at h
  cases hcollection : store.collection? name with
  | some collection =>
    rw [hcollection] at h
    cases h
  | none =>
    rw [hcollection] at h
    cases h
    exact validator?_put store name _ other

theorem validator?_of_modifyValidator
    (h : modifyValidator name validator store = (.ok (), final)) (other : String) :
    final.validator? other =
      if other = name then some (some validator) else store.validator? other := by
  rw [modifyValidator_eq] at h
  cases hcollection : store.collection? name with
  | none =>
    rw [hcollection] at h
    cases h
  | some collection =>
    rw [hcollection] at h
    cases h
    exact validator?_put store name _ other

theorem validator?_of_collectionValidator {existing : Option Document}
    (h : collectionValidator name store = (.ok existing, final)) :
    store.validator? name = some existing ∧ final = store := by
  rw [collectionValidator_eq] at h
  unfold validator?
  cases hcollection : store.collection? name with
  | none =>
    rw [hcollection] at h
    cases h
  | some collection =>
    rw [hcollection] at h
    cases h
    exact ⟨rfl, rfl⟩

theorem validator?_of_dropCollection (h : dropCollection name store = (.ok (), final))
    (other : String) :
    final.validator? other = if other = name then none else store.validator? other := by
  rw [dropCollection_eq] at h
  cases hcollection : store.collection? name with
  | none =>
    rw [hcollection] at h
    cases h
  | some collection =>
    rw [hcollection] at h
    cases h
    exact validator?_remove store name other

end Store

end DocQuery
