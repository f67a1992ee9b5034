import DocQuery.Proofs.Executor.Basic

/-!
# What a failed delete leaves

A delete takes the documents out of their collection before it looks at them, and puts those that
stay back when it has looked at all.  A filter that fails on one of them ends it in between: the
collection keeps its validator and its indexes and loses every document, matched or not.  A delete
by identities does not get there, for its predicate answers of every document.
-/

namespace DocQuery

variable {filter : Document}

namespace Collection

/-- The first document that a filter fails on decides how the whole look at the documents fails. -/
theorem keepUnmatched_of_fault {front : List Document} {doc : Document} {fault : Fault}
    (hfront : ∀ earlier ∈ front, ∃ holds, earlier.satisfies filter = .ok holds)
    (hdoc : doc.satisfies filter = .error fault) (rest : List Document) :
    keepUnmatched filter (front ++ doc :: rest) = .error fault := by
  induction front with
  | nil =>
    rw [List.nil_append, keepUnmatched, hdoc]
    rfl
  | cons first others ih =>
    obtain ⟨⟨holds, hholds⟩, hothers⟩ := List.forall_mem_cons.mp hfront
    rw [List.cons_append, keepUnmatched, hholds, ih hothers]
    rfl

/-- A delete that fails has come to the first document that its filter fails on, and has emptied the
    collection. -/
theorem deleteMany_eq_error {collection final : Collection} {fault : Fault}
    (h : collection.deleteMany filter = (final, .error fault)) :
    (∃ front doc rest, collection.documents = front ++ doc :: rest ∧
      (∀ earlier ∈ front, ∃ holds, earlier.satisfies filter = .ok holds) ∧
      doc.satisfies filter = .error fault) ∧
    final = { collection with documents := [] } := by
  rcases ok_or_exists_first_error (fun doc : Document => doc.satisfies filter)
    collection.documents with hanswers | ⟨front, doc, rest, fault', hdocuments, hfront, hdoc⟩
  · obtain ⟨kept, hkept⟩ := keepUnmatched_of_answers hanswers
    rw [deleteMany, hkept] at h
    cases h
  · have hkept := keepUnmatched_of_fault hfront hdoc rest
    rw [deleteMany, hdocuments, hkept] at h
    cases h
    exact ⟨⟨front, doc, rest, hdocuments, hfront, hdoc⟩, rfl⟩

end Collection

namespace Store

/-- What a failed delete leaves: its filter has failed on a document of the collection, the first one
    it fails on, and all documents of the collection are gone, those that had been looked at and
    found to stay included.  The collection's validator and indexes are as they were, and so is every
    other collection. -/
theorem store_of_failed_delete {name : String} {store final : Store} {failure : OperationError}
    (h : deleteMany name filter store = (.error failure, final)) :
    ∃ collection front doc rest fault,
      store.collection? name = some collection ∧
      collection.documents = front ++ doc :: rest ∧
      (∀ earlier ∈ front, ∃ holds, earlier.satisfies filter = .ok holds) ∧
      doc.satisfies filter = .error fault ∧ failure = .store fault ∧
      final.collection? name = some { collection with documents := [] } ∧
      ∀ other ≠ name, final.collection? other = store.collection? other := by
  rw [deleteMany_eq] at h
  cases hcollection : store.collection? name with
  | none =>
    rw [hcollection] at h
    cases h
  | some collection =>
    rw [hcollection, Prod.mk.injEq] at h
    obtain ⟨hfails, rfl⟩ := h
    obtain ⟨fault, hfault, rfl⟩ := mapError_eq_error.mp hfails
    obtain ⟨⟨front, doc, rest, hdocuments, hfront, hdoc⟩, hfinal⟩ :=
      Collection.deleteMany_eq_error (Prod.ext rfl hfault)
    refine ⟨collection, front, doc, rest, fault, rfl, hdocuments, hfront, hdoc, rfl, ?_, ?_⟩
    · exact (collection?_put_self store name _).trans (congrArg some hfinal)
    · intro other hother
      exact collection?_put_of_ne store hother _

/-- Two users, of whom the filter says no and fails: the one that was to stay is lost with the
    other. -/
theorem store_of_failed_delete_users :
    let filter : Document := [("age", .document [("$gt", .int32 30)]),
      ("name", .document [("$in", .string "Ada")])]
    let docs : List Document := [[("_id", .int32 1), ("age", .int32 20)],
      [("_id", .int32 2), ("age", .int32 40)]]
    let store : Store := ⟨[("users", ⟨docs, none, []⟩), ("teams", ⟨docs, none, []⟩)], 0⟩
    ∃ failure final, deleteMany "users" filter store = (.error failure, final) ∧
      final.documents "users" = [] ∧ final.documents "teams" = docs := by
  intro filter docs store
  have hfails : (deleteMany "users" filter store).1.toOption.isNone = true := by
    decide +kernel
  rcases hresult : deleteMany "users" filter store with ⟨failure | deleted, final⟩
  · obtain ⟨collection, -, -, -, -, -, -, -, -, -, hemptied, hothers⟩ :=
      store_of_failed_delete hresult
    refine ⟨failure, final, rfl, ?_, ?_⟩
    · rw [documents, hemptied]
      rfl
    · rw [documents, hothers "teams" (by decide)]
      rfl
  · rw [hresult] at hfails
    cases hfails

end Store

namespace Executor

/-- A delete of a query that needs a pipeline leaves the store as it is when it fails: what can fail
    comes in front of the write. -/
theorem eq_of_resolved_delete_error {config : Config} {query : Query} {store final : Store}
    {failure : OperationError} (hpipeline : query.requiresPipeline = true)
    (h : (onStore config).delete query store = (.error failure, final)) : final = store := by
  rcases delete_cases h with ⟨-, hsame⟩ | ⟨-, plan, filter, hplan, hfinds, hdeletes⟩
  · exact hsame
  · rw [Query.writePlan, if_pos hpipeline] at hplan
    obtain ⟨stages, -, hplan⟩ := bind_eq_ok.mp hplan
    cases hplan
    obtain ⟨rows, ids, -, -, rfl⟩ := Store.ids_of_finds hfinds
    have hanswers : ∀ doc ∈ store.documents query.schema,
        ∃ holds, doc.satisfies (resolvedFilter ids) = .ok holds :=
      fun doc _ => ⟨_, doc.satisfies_resolvedFilter ids⟩
    obtain ⟨deleted, final', hdeleted⟩ := Store.deleteMany_of_answers hanswers
    cases hdeleted.symm.trans hdeletes

end Executor

end DocQuery
