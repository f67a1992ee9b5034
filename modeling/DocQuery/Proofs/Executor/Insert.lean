import DocQuery.Proofs.Executor.Basic
import DocQuery.Proofs.Store.Insert

/-!
# Inserts on a store

An insert query that compiles reaches the store, which always reports.  The report has an identity
for each document or a write error, so an executor on a store never finds fewer identities than
documents behind a report without errors.  All this holds whatever identities the store gives to the
documents without one.
-/

namespace DocQuery

/-- The store as a backend, with the identities of documents without one from a supply. -/
def Store.backendFrom (supply : Nat → ObjectId) : Backend Store :=
  { Store.backend with insertMany := Store.insertManyFrom supply }

namespace Executor

/-- The executor on a store whose identities are from a supply. -/
def onStoreFrom (supply : Nat → ObjectId) (config : Config) : Executor Store :=
  ⟨Store.backendFrom supply, config⟩

/-- The executor on a store is one of these: the store has a supply of its own. -/
theorem onStoreFrom_assignedId (config : Config) :
    onStoreFrom Store.assignedId config = onStore config := by
  rw [onStoreFrom, Store.backendFrom, Store.insertManyFrom_assignedId]
  rfl

variable {supply : Nat → ObjectId} {config : Config} {query : Query} {store final : Store}

/-- An insert query does not compile and leaves the store as it is, or it inserts its documents and
    returns the first write error or the identities. -/
theorem insert_cases {result : Except OperationError (List Value)}
    (h : (onStoreFrom supply config).insert query store = (result, final)) :
    (∃ error, query.insertCommand config.encoder = .error error ∧
      result = .error (.compile error) ∧ final = store) ∨
    ∃ command outcome, query.insertCommand config.encoder = .ok command ∧
      Store.insertManyFrom supply command.collection command.documents store =
        (.ok outcome, final) ∧
      ((∃ first rest, outcome.writeErrors = first :: rest ∧
          result = .error first.toOperationError) ∨
        outcome.writeErrors = [] ∧ result = .ok outcome.insertedIds) := by
  rcases Operation.bind_cases h with ⟨failure, hfails, rfl⟩ | ⟨command, store', hcompiled, hwrite⟩
  · rw [Compiled.run_eq, Prod.mk.injEq, mapError_eq_error] at hfails
    obtain ⟨⟨error, hcommand, rfl⟩, rfl⟩ := hfails
    exact .inl ⟨error, hcommand, rfl, rfl⟩
  · obtain ⟨hcommand, rfl⟩ := Compiled.run_eq_ok.mp hcompiled
    obtain ⟨-, outcome, inserted, hrun, -⟩ :=
      Store.exists_insertedUpTo supply command.collection command.documents store
    refine .inr ⟨command, outcome, hcommand, ?_⟩
    replace hwrite := (Operation.bind_of_ok hrun _).symm.trans hwrite
    rw [Operation.bind_eq, checkWriteErrors_eq] at hwrite
    cases herrors : outcome.writeErrors with
    | cons first rest =>
      rw [herrors] at hwrite
      cases hwrite
      exact ⟨hrun, .inl ⟨first, rest, rfl, rfl⟩⟩
    | nil =>
      have hids := congrArg List.length (Store.ids_of_insertManyFrom hrun herrors)
      rw [List.length_map, List.length_map, Store.length_identify] at hids
      rw [herrors] at hwrite
      dsimp only at hwrite
      rw [if_pos hids] at hwrite
      cases hwrite
      exact ⟨hrun, .inr ⟨rfl, rfl⟩⟩

/-- An insert returns identities exactly for an insert query with rows that all compile and that the
    store reports no write error for; they are the identities of the rows' documents. -/
theorem insert_eq_ok {ids : List Value} :
    (onStoreFrom supply config).insert query store = (.ok ids, final) ↔
      query.action = .insert ∧ query.input ≠ [] ∧
        ∃ docs outcome,
          List.Forall₂ (fun row doc => Operand.encodeRow config.encoder row = .ok doc)
            query.input docs ∧
          Store.insertManyFrom supply query.schema docs store = (.ok outcome, final) ∧
          outcome.writeErrors = [] ∧
          ids.map some = (Store.identify supply store.assigned docs).map Document.id? := by
  constructor
  · intro h
    rcases insert_cases h with
      ⟨error, -, hresult, -⟩ | ⟨command, outcome, hcommand, hrun, hreport⟩
    · cases hresult
    · obtain ⟨haction, hinput, hrows, hschema⟩ := Query.insertCommand_eq_ok.mp hcommand
      rcases hreport with ⟨first, rest, -, hresult⟩ | ⟨hnone, hresult⟩
      · cases hresult
      · cases hresult
        refine ⟨haction, hinput, command.documents, outcome, hrows, hschema ▸ hrun, hnone, ?_⟩
        exact Store.ids_of_insertManyFrom hrun hnone
  · rintro ⟨haction, hinput, docs, outcome, hrows, hrun, hnone, hids⟩
    have hcommand : query.insertCommand config.encoder = .ok ⟨query.schema, docs⟩ :=
      Query.insertCommand_eq_ok.mpr ⟨haction, hinput, hrows, rfl⟩
    have hsame : ids = outcome.insertedIds :=
      List.map_injective_iff.mpr (Option.some_injective Value)
        (hids.trans (Store.ids_of_insertManyFrom hrun hnone).symm)
    rcases hresult : (onStoreFrom supply config).insert query store with ⟨result, final'⟩
    rcases insert_cases hresult with
      ⟨error, herror, -, -⟩ | ⟨command, outcome', hcommand', hrun', hreport⟩
    · cases hcommand.symm.trans herror
    · cases hcommand.symm.trans hcommand'
      cases hrun.symm.trans hrun'
      rcases hreport with ⟨first, rest, herrors, -⟩ | ⟨-, rfl⟩
      · rw [hnone] at herrors
        cases herrors
      · rw [hsame]

/-- An insert returns one identity for each row. -/
theorem length_of_insert {ids : List Value}
    (h : (onStoreFrom supply config).insert query store = (.ok ids, final)) :
    ids.length = query.input.length := by
  obtain ⟨-, -, docs, outcome, hrows, -, -, hids⟩ := insert_eq_ok.mp h
  have hlength := congrArg List.length hids
  rw [List.length_map, List.length_map, Store.length_identify] at hlength
  exact hlength.trans hrows.length_eq.symm

theorem toOperationError_ne_insertCountMismatch (error : WriteError) (expected actual : Nat) :
    error.toOperationError ≠ .insertCountMismatch expected actual := by
  unfold WriteError.toOperationError
  split <;> nofun

/-- An executor on a store never finds another number of identities than of documents. -/
theorem insert_ne_insertCountMismatch (expected actual : Nat) :
    (onStoreFrom supply config).insert query store ≠
      (.error (.insertCountMismatch expected actual), final) := by
  intro h
  rcases insert_cases h with ⟨error, -, hresult, -⟩ | ⟨command, outcome, -, -, hreport⟩
  · cases hresult
  · rcases hreport with ⟨first, rest, -, hresult⟩ | ⟨-, hresult⟩
    · exact toOperationError_ne_insertCountMismatch first expected actual
        (Except.error.inj hresult).symm
    · cases hresult

/-- An insert stores documents up to the first that the collection rejects, whatever identities the
    store gives: the longest front part in which each document, with an identity, is taken beside
    those that are there and those in front of it.  It reports their identities in order, and one
    write error if a document is left.  So an executor returns identities exactly for an insert query
    with rows that all compile and meet no write error; they are those of the rows, in order, and it
    never finds another number of them.  The identities that the store assigns are one such supply. -/
theorem inserted_up_to_rejection (supply : Nat → ObjectId) (config : Config) (store : Store) :
    (Store.insertManyFrom Store.assignedId = Store.insertMany ∧
      onStoreFrom Store.assignedId config = onStore config) ∧
    (∀ name docs, ∃ stored outcome final,
      Store.insertManyFrom supply name docs store = (.ok outcome, final) ∧
      store.InsertedUpTo name (Store.identify supply store.assigned docs) stored outcome final) ∧
    ∀ query final,
      (∀ ids, (onStoreFrom supply config).insert query store = (.ok ids, final) ↔
        query.action = .insert ∧ query.input ≠ [] ∧
          ∃ docs outcome,
            List.Forall₂ (fun row doc => Operand.encodeRow config.encoder row = .ok doc)
              query.input docs ∧
            Store.insertManyFrom supply query.schema docs store = (.ok outcome, final) ∧
            outcome.writeErrors = [] ∧
            ids.map some = (Store.identify supply store.assigned docs).map Document.id?) ∧
      (∀ ids, (onStoreFrom supply config).insert query store = (.ok ids, final) →
        ids.length = query.input.length) ∧
      ∀ expected actual, (onStoreFrom supply config).insert query store ≠
        (.error (.insertCountMismatch expected actual), final) := by
  refine ⟨⟨Store.insertManyFrom_assignedId, onStoreFrom_assignedId config⟩,
    fun name docs => Store.exists_insertedUpTo supply name docs store, ?_⟩
  intro query final
  refine ⟨?_, ?_, ?_⟩
  · intro ids
    exact insert_eq_ok
  · intro ids
    exact length_of_insert
  · intro expected actual
    exact insert_ne_insertCountMismatch expected actual

end Executor

end DocQuery
