import DocQuery.Proofs.Executor.Basic
import DocQuery.Proofs.Store.Indexes

/-!
# What a failed schema change leaves

A change is applied by several calls of the store, which has no way back.  All that can fail fails
in front of the first write, but for one thing: an alteration replaces the validator before it
creates the indexes, and a unique index may not fit the documents that are there.
-/

namespace DocQuery

namespace Store

variable {store final : Store} {name : String} {collection : Collection} {failure : OperationError}

theorem put_put (store : Store) (name : String) (first second : Collection) :
    (store.put name first).put name second = store.put name second := by
  simp [put, List.filter_filter]

theorem collectionValidator_of_some (h : store.collection? name = some collection) :
    collectionValidator name store = (.ok collection.validator, store) := by
  rw [collectionValidator_eq, h]

theorem collectionValidator_of_none (h : store.collection? name = none) :
    collectionValidator name store = (.error (.collectionNotFound name), store) := by
  rw [collectionValidator_eq, h]

theorem modifyValidator_of_some (h : store.collection? name = some collection)
    (validator : Document) :
    modifyValidator name validator store =
      (.ok (), store.put name { collection with validator := some validator }) := by
  rw [modifyValidator_eq, h]

/-- A collection that is not created is in the way of another one, which stays as it is. -/
theorem eq_of_createCollection_error {validator : Document}
    (h : createCollection name validator store = (.error failure, final)) : final = store := by
  rw [createCollection_eq] at h
  cases hcollection : store.collection? name with
  | none =>
    rw [hcollection] at h
    cases h
  | some collection =>
    rw [hcollection] at h
    cases h
    rfl

/-- A collection that has been created has no documents. -/
theorem exists_of_createCollection {validator : Document}
    (h : createCollection name validator store = (.ok (), final)) :
    ∃ collection, final.collection? name = some collection ∧ collection.documents = [] := by
  rw [createCollection_eq] at h
  cases hcollection : store.collection? name with
  | none =>
    rw [hcollection] at h
    cases h
    exact ⟨_, collection?_put_self _ _ _, rfl⟩
  | some collection =>
    rw [hcollection] at h
    cases h

theorem eq_of_dropCollection_error
    (h : dropCollection name store = (.error failure, final)) : final = store := by
  rw [dropCollection_eq] at h
  cases hcollection : store.collection? name with
  | none =>
    rw [hcollection] at h
    cases h
    rfl
  | some collection =>
    rw [hcollection] at h
    cases h

end Store

namespace SchemaChange

/-- Whether a change is an alteration that stops on the stored documents: it compiles, its first
    indexes fit the documents of its collection, and the next one does not. -/
structure StopsAt (change : SchemaChange) (store : Store) (collection : Collection)
    (created : List IndexSpec) (refused : IndexSpec) : Prop where
  action_eq : change.action = .update
  collection_eq : store.collection? change.schema = some collection
  indexes_eq : ∃ rest,
    change.constraints.mapM SchemaConstraint.index = .ok (created ++ refused :: rest)
  fits : ∀ index ∈ created, index.Fits collection.documents
  not_fits : ¬refused.Fits collection.documents

/-- A collection with the validator of an alteration and the first of its indexes. -/
def alteredUpTo (change : SchemaChange) (created : List IndexSpec) (collection : Collection) :
    Collection where
  documents := collection.documents
  validator :=
    some (mergedValidator change.updateFields change.deleteFields collection.validator)
  indexes := created.foldl IndexSpec.installIn collection.indexes

end SchemaChange

namespace Executor

variable {config : Config} {change : SchemaChange} {store final : Store} {collection : Collection}
  {created : List IndexSpec} {refused : IndexSpec}

/-! ## Indexes -/

theorem createIndexes_eq (config : Config) {name : String} {indexes : List IndexSpec}
    (hindexes : indexes ≠ []) (hcollection : store.collection? name = some collection) :
    (onStore config).createIndexes name indexes store =
      (match (collection.createIndexes indexes).2 with
        | none => .ok ()
        | some rejection => .error (.duplicateKey rejection.report.message),
        store.put name (collection.createIndexes indexes).1) := by
  have hfound := Store.collectionOrEmpty_of_some hcollection
  have hnonempty : ¬indexes.isEmpty = true := by simpa using hindexes
  rw [createIndexes, if_neg hnonempty, ← hfound]
  exact Store.createIndexes_eq name indexes store

/-- Indexes that fit the documents of a collection that is there are created without failure. -/
theorem createIndexes_of_fit (config : Config) {name : String} {indexes : List IndexSpec}
    (hcollection : store.collection? name = some collection)
    (hfit : ∀ index ∈ indexes, index.Fits collection.documents) :
    ((onStore config).createIndexes name indexes store).1 = .ok () := by
  by_cases hindexes : indexes = []
  · subst hindexes
    rfl
  · rw [createIndexes_eq config hindexes hcollection, Collection.createIndexes_of_fit hfit]

/-- The first index that does not fit ends the creation with the report of a repeated key. -/
theorem createIndexes_of_not_fits (config : Config) {name : String}
    (hcollection : store.collection? name = some collection)
    (hfits : ∀ index ∈ created, index.Fits collection.documents)
    (hnot : ¬refused.Fits collection.documents) (rest : List IndexSpec) :
    ∃ key, (onStore config).createIndexes name (created ++ refused :: rest) store =
      (.error (.duplicateKey (Rejection.duplicateKey refused.resolvedName key).report.message),
        store.put name (collection.withIndexes created)) := by
  have hne : created ++ refused :: rest ≠ [] := by simp
  obtain ⟨key, hkey⟩ := Collection.createIndexes_of_not_fits hfits hnot rest
  refine ⟨key, ?_⟩
  rw [createIndexes_eq config hne hcollection, hkey]

/-! ## Alterations -/

/-- An alteration of a collection that is there, once its indexes are compiled, replaces the validator
    and then creates the indexes. -/
theorem applySchema_update (config : Config) {indexes : List IndexSpec}
    (haction : change.action = .update)
    (hcollection : store.collection? change.schema = some collection)
    (hindexes : change.constraints.mapM SchemaConstraint.index = .ok indexes) :
    (onStore config).applySchema change store =
      ((onStore config).createIndexes change.schema indexes >>= fun _ =>
        pure (.alter change.schema (SchemaChange.mergedValidator change.updateFields
          change.deleteFields collection.validator) indexes) : Operation Store SchemaCommand)
          (store.put change.schema (change.alteredUpTo [] collection)) := by
  have hcommand : change.command collection.validator = .ok (.alter change.schema
      (SchemaChange.mergedValidator change.updateFields change.deleteFields collection.validator)
      indexes) := by
    simp only [SchemaChange.command, haction, hindexes]
    rfl
  have hexisting := Store.collectionValidator_of_some hcollection
  have hmodified := Store.modifyValidator_of_some hcollection
  unfold applySchema
  simp only [haction]
  refine (Operation.bind_of_ok hexisting _).trans ?_
  refine (Operation.bind_of_ok (Compiled.run_eq_ok.mpr ⟨hcommand, rfl⟩) _).trans ?_
  exact Operation.bind_of_ok (hmodified _) _

/-- An alteration that stops on the stored documents fails for a repeated key, with the validator
    replaced and the indexes in front of the refused one created. -/
theorem applySchema_of_stopsAt (config : Config)
    (hstops : change.StopsAt store collection created refused) :
    ∃ key, (onStore config).applySchema change store =
      (.error (.duplicateKey (Rejection.duplicateKey refused.resolvedName key).report.message),
        store.put change.schema (change.alteredUpTo created collection)) := by
  obtain ⟨rest, hindexes⟩ := hstops.indexes_eq
  have hput := Store.collection?_put_self store change.schema (change.alteredUpTo [] collection)
  have hfits : ∀ index ∈ created, index.Fits (change.alteredUpTo [] collection).documents :=
    hstops.fits
  have hnot : ¬refused.Fits (change.alteredUpTo [] collection).documents := hstops.not_fits
  obtain ⟨key, hkey⟩ := createIndexes_of_not_fits config hput hfits hnot rest
  refine ⟨key, ?_⟩
  rw [applySchema_update config hstops.action_eq hstops.collection_eq hindexes]
  refine (Operation.bind_of_error hkey _).trans ?_
  rw [Store.put_put]
  rfl

/-! ## Failures -/

/-- A change whose last step is to create indexes that fit does not fail there. -/
theorem not_error_of_fit {name : String} {indexes : List IndexSpec} {command : SchemaCommand}
    {failure : OperationError} (hcollection : store.collection? name = some collection)
    (hfit : ∀ index ∈ indexes, index.Fits collection.documents) :
    ((onStore config).createIndexes name indexes >>= fun _ => pure command :
      Operation Store SchemaCommand) store ≠ (.error failure, final) := by
  intro h
  rcases Operation.bind_cases h with ⟨failure', hfails, -⟩ | ⟨⟨⟩, store', -, hpure⟩
  · have hcreated := createIndexes_of_fit config hcollection hfit
    rw [hfails] at hcreated
    cases hcreated
  · cases hpure

/-- A creation that fails leaves the store as it is: every index fits a collection without
    documents. -/
theorem eq_of_create_error {failure : OperationError} (haction : change.action = .create)
    (h : (onStore config).applySchema change store = (.error failure, final)) :
    final = store := by
  unfold applySchema at h
  simp only [haction] at h
  replace h := (Operation.bind_of_ok (Operation.pure_eq_ok.mpr ⟨rfl, rfl⟩) _).symm.trans h
  rcases Operation.bind_cases h with ⟨failure, hfails, -⟩ | ⟨command, store', hcompiled, h⟩
  · exact Compiled.run_eq_error hfails
  obtain ⟨hcommand, rfl⟩ := Compiled.run_eq_ok.mp hcompiled
  simp only [SchemaChange.command, haction] at hcommand
  obtain ⟨indexes, -, hcommand⟩ := bind_eq_ok.mp hcommand
  cases hcommand
  rcases Operation.bind_cases h with ⟨failure, hfails, -⟩ | ⟨⟨⟩, store', hcreated, h⟩
  · exact Store.eq_of_createCollection_error hfails
  obtain ⟨created, hcollection, hempty⟩ := Store.exists_of_createCollection hcreated
  have hfit : ∀ index ∈ indexes, index.Fits created.documents := by
    intro index _ _
    rw [hempty]
    exact List.Pairwise.nil
  exact (not_error_of_fit hcollection hfit h).elim

/-- An alteration that fails without being stopped by an index leaves the store as it is. -/
theorem eq_of_update_error {failure : OperationError} (haction : change.action = .update)
    (hnot : ∀ collection created refused, ¬change.StopsAt store collection created refused)
    (h : (onStore config).applySchema change store = (.error failure, final)) :
    final = store := by
  cases hcollection : store.collection? change.schema with
  | none =>
    have hmissing := Store.collectionValidator_of_none hcollection
    unfold applySchema at h
    simp only [haction] at h
    cases (Operation.bind_of_error hmissing _).symm.trans h
    rfl
  | some collection =>
    cases hindexes : change.constraints.mapM SchemaConstraint.index with
    | error error =>
      have hexisting := Store.collectionValidator_of_some hcollection
      have hcommand : change.command collection.validator = .error error := by
        simp only [SchemaChange.command, haction, hindexes]
        rfl
      have hfails : (change.command collection.validator).run store =
          (.error (.compile error), store) := by
        rw [Compiled.run_eq, hcommand]
        rfl
      unfold applySchema at h
      simp only [haction] at h
      replace h := (Operation.bind_of_ok hexisting _).symm.trans h
      cases (Operation.bind_of_error hfails _).symm.trans h
      rfl
    | ok indexes =>
      have hput := Store.collection?_put_self store change.schema
        (change.alteredUpTo [] collection)
      rw [applySchema_update config haction hcollection hindexes] at h
      rcases IndexSpec.fit_or_exists_first collection.documents indexes with
        hfit | ⟨created, refused, rest, rfl, hfits, hrefused⟩
      · exact (not_error_of_fit hput hfit h).elim
      · exact (hnot _ _ _ ⟨haction, hcollection, ⟨rest, hindexes⟩, hfits, hrefused⟩).elim

/-- A removal that fails leaves the store as it is. -/
theorem eq_of_delete_error {failure : OperationError} (haction : change.action = .delete)
    (h : (onStore config).applySchema change store = (.error failure, final)) :
    final = store := by
  unfold applySchema at h
  simp only [haction] at h
  replace h := (Operation.bind_of_ok (Operation.pure_eq_ok.mpr ⟨rfl, rfl⟩) _).symm.trans h
  rcases Operation.bind_cases h with ⟨failure, hfails, -⟩ | ⟨command, store', hcompiled, h⟩
  · exact Compiled.run_eq_error hfails
  obtain ⟨hcommand, rfl⟩ := Compiled.run_eq_ok.mp hcompiled
  simp only [SchemaChange.command, haction] at hcommand
  cases hcommand
  rcases Operation.bind_cases h with ⟨failure, hfails, -⟩ | ⟨⟨⟩, store', -, h⟩
  · exact Store.eq_of_dropCollection_error hfails
  · cases h

/-- What a failed change leaves: an alteration that stops on the stored documents has replaced the
    validator and created the indexes in front of the refused one, in its own collection and among
    the documents that were there; any other change has done nothing. -/
theorem store_of_failed_change {failure : OperationError}
    (h : (onStore config).applySchema change store = (.error failure, final)) :
    (∃ collection created refused key, change.StopsAt store collection created refused ∧
      failure =
        .duplicateKey (Rejection.duplicateKey refused.resolvedName key).report.message ∧
      final.collection? change.schema = some (change.alteredUpTo created collection) ∧
      ∀ name, name ≠ change.schema → final.collection? name = store.collection? name) ∨
    (∀ collection created refused, ¬change.StopsAt store collection created refused) ∧
      final = store := by
  by_cases hstops : ∃ collection created refused, change.StopsAt store collection created refused
  · obtain ⟨collection, created, refused, hstops⟩ := hstops
    obtain ⟨key, hkey⟩ := applySchema_of_stopsAt config hstops
    cases hkey.symm.trans h
    refine .inl ⟨collection, created, refused, key, hstops, rfl, ?_, ?_⟩
    · exact Store.collection?_put_self _ _ _
    · intro name hname
      exact Store.collection?_put_of_ne store hname _
  · have hnot : ∀ collection created refused,
        ¬change.StopsAt store collection created refused := by
      intro collection created refused hstopsAt
      exact hstops ⟨collection, created, refused, hstopsAt⟩
    refine .inr ⟨hnot, ?_⟩
    cases haction : change.action with
    | create => exact eq_of_create_error haction h
    | update => exact eq_of_update_error haction hnot h
    | delete => exact eq_of_delete_error haction h

/-- An alteration of users whose first index fits and whose second one does not: no two have the same
    address, but they share a name. -/
theorem store_of_failed_change_users :
    let change : SchemaChange := ⟨"users", .update, [], [⟨.name "age", .int32⟩], [],
      [.unique [.name "email"] none, .unique [.name "name"] none]⟩
    let store : Store := ⟨[("users", ⟨[[("_id", .int32 1), ("name", .string "Ada")],
      [("_id", .int32 2), ("name", .string "Ada"), ("email", .string "ada@b.org")]],
      none, []⟩)], 0⟩
    ∃ failure final, (onStore .standard).applySchema change store = (.error failure, final) ∧
      ∃ collection created refused, change.StopsAt store collection created refused ∧
        final.collection? "users" = some (change.alteredUpTo created collection) := by
  intro change store
  have hfails : ((onStore .standard).applySchema change store).1.toOption.isNone = true := by
    decide +kernel
  have haltered : ((((onStore .standard).applySchema change store).2.collection? "users").bind
      Collection.validator).isSome = true := by
    decide +kernel
  rcases hresult : (onStore .standard).applySchema change store with ⟨failure | command, final⟩
  · rw [hresult] at haltered
    refine ⟨failure, final, rfl, ?_⟩
    rcases store_of_failed_change hresult with
      ⟨collection, created, refused, -, hstops, -, hcollection, -⟩ | ⟨-, hsame⟩
    · exact ⟨collection, created, refused, hstops, hcollection⟩
    · rw [hsame] at haltered
      cases haltered
  · rw [hresult] at hfails
    cases hfails

/-- A failed change need not leave the store as it was: the validator and the first index stay. -/
theorem failed_change_alters_users :
    let change : SchemaChange := ⟨"users", .update, [], [⟨.name "age", .int32⟩], [],
      [.unique [.name "email"] none, .unique [.name "name"] none]⟩
    let store : Store := ⟨[("users", ⟨[[("_id", .int32 1), ("name", .string "Ada")],
      [("_id", .int32 2), ("name", .string "Ada"), ("email", .string "ada@b.org")]],
      none, []⟩)], 0⟩
    ∃ failure final, (onStore .standard).applySchema change store = (.error failure, final) ∧
      final.collection? "users" ≠ store.collection? "users" := by
  intro change store
  have hfails : ((onStore .standard).applySchema change store).1.toOption.isNone = true := by
    decide +kernel
  have hindexes : (((onStore .standard).applySchema change store).2.collection? "users").map
      (·.indexes.length) = some 1 := by
    decide +kernel
  rcases hresult : (onStore .standard).applySchema change store with ⟨failure | command, final⟩
  · rw [hresult] at hindexes
    refine ⟨failure, final, rfl, ?_⟩
    intro hsame
    dsimp only at hindexes
    rw [hsame] at hindexes
    cases hindexes
  · rw [hresult] at hfails
    cases hfails

end Executor

end DocQuery
