import DocQuery.Proofs.Compile.Support
import DocQuery.Proofs.Executor.Delivery

/-!
# Queries that the store can run

A query of built-in nodes on paths, without inverse subsets between two fields, never fails on a
store for a name that the engine does not know, whatever the store holds.  It may fail to compile,
and it may fail for what it finds in a document.
-/

namespace DocQuery

/-- Whether an operation failed for something that the engine does not know. -/
def OperationError.isUnsupported : OperationError → Bool
  | .store fault => fault.isUnsupported
  | _ => false

namespace Operation

variable {σ α β : Type}

/-- Whether an operation on a state does not fail for something that the engine does not know. -/
def SupportedAt (operation : Operation σ α) (state : σ) : Prop :=
  ∀ failure final, operation state = (.error failure, final) → failure.isUnsupported = false

theorem supportedAt_pure (value : α) (state : σ) :
    SupportedAt (pure value : Operation σ α) state := by
  intro failure final h
  cases h

theorem supportedAt_throw {failure : OperationError} (h : failure.isUnsupported = false)
    (state : σ) : SupportedAt (throw failure : Operation σ α) state := by
  intro other final hthrow
  cases hthrow
  exact h

theorem SupportedAt.bind {first : Operation σ α} {next : α → Operation σ β} {state : σ}
    (hfirst : SupportedAt first state)
    (hnext : ∀ value state', first state = (.ok value, state') → SupportedAt (next value) state') :
    SupportedAt (first >>= next) state := by
  intro failure final h
  rcases bind_cases h with ⟨earlier, hfails, heq⟩ | ⟨value, state', hvalue, hfails⟩
  · cases heq
    exact hfirst _ _ hfails
  · exact hnext value state' hvalue failure final hfails

end Operation

open Operation

theorem Compiled.supportedAt_run {σ α : Type} (result : Compiled α) (state : σ) :
    SupportedAt (result.run : Operation σ α) state := by
  cases result with
  | error error => exact supportedAt_throw rfl state
  | ok value => exact supportedAt_pure value state

theorem WriteError.isUnsupported_toOperationError (error : WriteError) :
    error.toOperationError.isUnsupported = false := by
  unfold toOperationError
  split <;> rfl

theorem supportedAt_checkWriteErrors {σ : Type} (errors : List WriteError) (state : σ) :
    SupportedAt (checkWriteErrors errors : Operation σ Unit) state := by
  unfold checkWriteErrors firstWriteError?
  cases errors with
  | nil => exact supportedAt_pure () state
  | cons error rest => exact supportedAt_throw error.isUnsupported_toOperationError state

/-! ## Writes of the store -/

namespace Collection

variable {filter update : Document}

theorem supported_updateStep (collection : Collection) (hfilter : Predicate.Supported filter)
    (hupdate : Update.Supported update) (doc : Document) (others : List Document) :
    (collection.updateStep filter update doc others).Supported := by
  refine (hfilter doc).bind fun holds => ?_
  cases holds with
  | false => exact Run.supported_ok _
  | true =>
    refine (hupdate doc).bind fun next => ?_
    split
    · exact Run.supported_ok _
    · split
      · exact Run.supported_ok _
      · split <;> exact Run.supported_ok _

theorem supported_updateFrom (collection : Collection) (hfilter : Predicate.Supported filter)
    (hupdate : Update.Supported update) (done rest : List Document) (outcome : UpdateOutcome) :
    (collection.updateFrom filter update done outcome rest).2.Supported := by
  induction rest generalizing done outcome with
  | nil => exact Run.supported_ok outcome
  | cons doc rest ih =>
    have hstep := collection.supported_updateStep hfilter hupdate doc (done ++ rest)
    rw [updateFrom]
    split
    · rename_i fault hfault
      exact Run.supported_error (hstep fault hfault)
    · exact ih _ _
    · exact ih _ _
    · exact ih _ _
    · exact Run.supported_ok _

theorem supported_keepUnmatched (hfilter : Predicate.Supported filter) (docs : List Document) :
    (keepUnmatched filter docs).Supported := by
  induction docs with
  | nil => exact Run.supported_ok []
  | cons doc rest ih => exact (hfilter doc).bind fun _ => ih.bind fun _ => Run.supported_ok _

theorem supported_deleteMany (collection : Collection) (hfilter : Predicate.Supported filter) :
    (collection.deleteMany filter).2.Supported := by
  have hkept := supported_keepUnmatched hfilter collection.documents
  unfold deleteMany
  split
  · exact Run.supported_ok _
  · rename_i fault hfault
    exact Run.supported_error (hkept fault hfault)

end Collection

namespace Store

variable {name : String} {filter update : Document} {store : Store}

/-- A fault of a supported run is reported as a supported failure. -/
theorem isUnsupported_of_mapError {α : Type} {result : Run α} (h : result.Supported)
    {failure : OperationError} (hfailure : result.mapError .store = .error failure) :
    failure.isUnsupported = false := by
  cases result with
  | ok value => cases hfailure
  | error fault =>
    cases hfailure
    exact h fault rfl

theorem supportedAt_updateMany (hfilter : Predicate.Supported filter)
    (hupdate : Update.Supported update) : SupportedAt (updateMany name filter update) store := by
  intro failure final h
  rw [updateMany_eq] at h
  cases hcollection : store.collection? name with
  | none =>
    rw [hcollection] at h
    cases h
  | some collection =>
    rw [hcollection] at h
    exact isUnsupported_of_mapError (collection.supported_updateFrom hfilter hupdate _ _ _)
      (congrArg Prod.fst h)

theorem supportedAt_deleteMany (hfilter : Predicate.Supported filter) :
    SupportedAt (deleteMany name filter) store := by
  intro failure final h
  rw [deleteMany_eq] at h
  cases hcollection : store.collection? name with
  | none =>
    rw [hcollection] at h
    cases h
  | some collection =>
    rw [hcollection] at h
    exact isUnsupported_of_mapError (collection.supported_deleteMany hfilter) (congrArg Prod.fst h)

theorem supportedAt_insertMany (docs : List Document) :
    SupportedAt (insertMany name docs) store := by
  intro failure final h
  rw [insertMany_eq] at h
  cases h

theorem supportedAt_aggregate {stages : List Document} {options : ReadOptions}
    (h : Pipeline.Supports store.documents stages) :
    SupportedAt (backend.aggregate name stages options) store := by
  intro failure final hfails
  rw [backend_aggregate_eq] at hfails
  have hrun := h (store.documents name)
  generalize Pipeline.run store.documents stages (store.documents name) = result at hrun hfails
  cases result with
  | ok rows => cases hfails
  | error fault =>
    cases hfails
    exact hrun fault rfl

/-- Rows that come without an error may lack an identity, and nothing else. -/
theorem isUnsupported_of_collectIds {rows : List Document} {failure : OperationError}
    (h : collectIds (rows.map .ok) = .error failure) : failure.isUnsupported = false := by
  induction rows generalizing failure with
  | nil => cases h
  | cons row rest ih =>
    cases hid : row.id? with
    | none =>
      rw [collectIds_cons_of_none hid] at h
      cases h
      rfl
    | some id =>
      rw [collectIds_cons_of_some hid] at h
      cases hrest : collectIds (rest.map .ok) with
      | ok others =>
        rw [hrest] at h
        cases h
      | error earlier =>
        rw [hrest] at h
        cases h
        exact ih hrest

/-- Whether what a plan runs is supported. -/
def PlanSupported : WritePlan → Prop
  | .direct predicate => Predicate.Supported predicate
  | .resolveIds pipeline => ∀ source, Pipeline.Supports source pipeline

theorem supportedAt_targetFilter {plan : WritePlan} {options : ReadOptions}
    (h : PlanSupported plan) : SupportedAt (backend.targetFilter name plan options) store := by
  cases plan with
  | direct predicate => exact supportedAt_pure predicate store
  | resolveIds pipeline =>
    refine SupportedAt.bind (SupportedAt.bind (supportedAt_aggregate (h _)) ?_) ?_
    · intro stream store' hstream failure final hfails
      obtain ⟨rows, -, rfl, rfl⟩ := backend_aggregate_eq_ok.mp hstream
      rw [liftExcept_eq] at hfails
      exact isUnsupported_of_collectIds (congrArg Prod.fst hfails)
    · intro ids store' _
      exact supportedAt_pure _ store'

theorem supported_of_finds {plan : WritePlan} (h : PlanSupported plan)
    (hfinds : store.Finds name plan filter) : Predicate.Supported filter := by
  cases plan with
  | direct predicate =>
    rw [hfinds]
    exact h
  | resolveIds pipeline =>
    obtain ⟨rows, ids, -, -, rfl⟩ := hfinds
    exact Predicate.supported_resolvedFilter ids

end Store

/-! ## Plans -/

namespace Query

variable {query : Query} {encoder : Encoder}

theorem IsSupported.planSupported (hquery : query.IsSupported) {plan : WritePlan}
    (h : query.writePlan encoder = .ok plan) : Store.PlanSupported plan := by
  unfold writePlan at h
  split at h
  · obtain ⟨stages, hstages, h⟩ := bind_eq_ok.mp h
    cases h
    intro source
    exact (hquery.supports_stages hstages).append
      (Pipeline.supports_project (by simp [Pipeline.isFlag]))
  · obtain ⟨predicate, hpredicate, h⟩ := bind_eq_ok.mp h
    cases h
    cases predicate with
    | none => exact Predicate.supported_nil
    | some predicate => exact hquery.supported_predicate hpredicate predicate rfl

end Query

/-! ## Queries -/

namespace Executor

variable {config : Config} {query : Query} {store : Store}

theorem supportedAt_stream {command : ReadCommand}
    (h : Pipeline.Supports store.documents command.pipeline) :
    SupportedAt ((onStore config).stream command) store :=
  Store.supportedAt_aggregate h

theorem supportedAt_find (hquery : query.IsSupported) :
    SupportedAt ((onStore config).find query) store := by
  refine (Compiled.supportedAt_run _ store).bind fun command store' hcommand => ?_
  obtain ⟨hcompiled, rfl⟩ := Compiled.run_eq_ok.mp hcommand
  obtain ⟨-, pipeline, aggregate, hpipeline, -, rfl⟩ := Query.readCommand_eq_ok hcompiled
  have hsupported : Pipeline.Supports store.documents pipeline := hquery.supports_stages hpipeline
  refine SupportedAt.bind (supportedAt_stream hsupported) fun stream store' hstream => ?_
  obtain ⟨rows, -, rfl, rfl⟩ := Store.backend_aggregate_eq_ok.mp hstream
  rw [RowStream.collect_map_ok]
  exact supportedAt_pure _ _

theorem supportedAt_insert : SupportedAt ((onStore config).insert query) store := by
  refine (Compiled.supportedAt_run _ store).bind fun command store' _ => ?_
  refine (Store.supportedAt_insertMany command.documents).bind fun outcome store'' _ => ?_
  refine (supportedAt_checkWriteErrors _ store'').bind fun _ store' _ => ?_
  split
  · exact supportedAt_pure _ store'
  · exact supportedAt_throw rfl store'

theorem supportedAt_update (hquery : query.IsSupported) :
    SupportedAt ((onStore config).update query) store := by
  refine (Compiled.supportedAt_run _ store).bind fun _ store' hallowed => ?_
  obtain ⟨hexpected, rfl⟩ := Compiled.run_eq_ok.mp hallowed
  have haction := List.mem_singleton.mp (Query.mem_of_expectAction hexpected)
  refine (Compiled.supportedAt_run _ store).bind fun command store' hcommand => ?_
  obtain ⟨hcompiled, rfl⟩ := Compiled.run_eq_ok.mp hcommand
  obtain ⟨plan, changed, hplan, hchanged, rfl⟩ := Query.writeCommand_update_eq_ok haction hcompiled
  -- Without a caller's own operators the update is the one that the changes compile to.
  have hmerged : mergeUpdate changed query.customUpdate = changed := by
    rw [hquery.update]
    rfl
  rw [hmerged]
  cases changed with
  | none => exact supportedAt_pure _ store
  | some update =>
    have hsupported := hquery.planSupported hplan
    refine (Store.supportedAt_targetFilter hsupported).bind fun filter store' hfilter => ?_
    obtain ⟨hfinds, rfl⟩ := Store.finds_of_targetFilter hfilter
    have hfilterSupported := Store.supported_of_finds hsupported hfinds
    refine SupportedAt.bind (Store.supportedAt_updateMany hfilterSupported
      (Changes.supported_update hchanged)) fun outcome store'' _ => ?_
    exact (supportedAt_checkWriteErrors _ store'').bind fun _ store' _ => supportedAt_pure _ store'

theorem supportedAt_delete (hquery : query.IsSupported) :
    SupportedAt ((onStore config).delete query) store := by
  refine (Compiled.supportedAt_run _ store).bind fun _ store' hallowed => ?_
  obtain ⟨hexpected, rfl⟩ := Compiled.run_eq_ok.mp hallowed
  have haction := List.mem_singleton.mp (Query.mem_of_expectAction hexpected)
  refine (Compiled.supportedAt_run _ store).bind fun command store' hcommand => ?_
  obtain ⟨hcompiled, rfl⟩ := Compiled.run_eq_ok.mp hcommand
  obtain ⟨plan, hplan, rfl⟩ := Query.writeCommand_delete_eq_ok haction hcompiled
  have hsupported := hquery.planSupported hplan
  refine (Store.supportedAt_targetFilter hsupported).bind fun filter store' hfilter => ?_
  obtain ⟨hfinds, rfl⟩ := Store.finds_of_targetFilter hfilter
  exact Store.supportedAt_deleteMany (Store.supported_of_finds hsupported hfinds)

theorem supportedAt_execute (hquery : query.IsSupported) :
    SupportedAt ((onStore config).execute query) store := by
  unfold execute
  cases query.action with
  | find => exact (supportedAt_find hquery).bind fun _ store' _ => supportedAt_pure _ store'
  | insert => exact supportedAt_insert.bind fun _ store' _ => supportedAt_pure _ store'
  | update => exact (supportedAt_update hquery).bind fun _ store' _ => supportedAt_pure _ store'
  | delete => exact (supportedAt_delete hquery).bind fun _ store' _ => supportedAt_pure _ store'

/-- A read row by row on the store does not break off once it has started. -/
theorem failure_of_startDelivery {delivery : Delivery} {final : Store}
    (h : (onStore config).startDelivery query store = (.ok delivery, final)) :
    delivery.failure = none := by
  obtain ⟨command, store', -, h⟩ := Operation.bind_eq_ok.mp h
  obtain ⟨stream, store'', hstream, h⟩ := Operation.bind_eq_ok.mp h
  obtain ⟨rows, -, rfl, -⟩ := Store.backend_aggregate_eq_ok.mp hstream
  obtain ⟨rfl, -⟩ := Operation.pure_eq_ok.mp h
  rw [deliver_of_end (RowStream.deliver_map_ok rows)]

theorem supportedAt_startDelivery (hquery : query.IsSupported) :
    SupportedAt ((onStore config).startDelivery query) store := by
  refine (Compiled.supportedAt_run _ store).bind fun command store' hcommand => ?_
  obtain ⟨hcompiled, rfl⟩ := Compiled.run_eq_ok.mp hcommand
  obtain ⟨-, pipeline, aggregate, hpipeline, -, rfl⟩ := Query.readCommand_eq_ok hcompiled
  have hsupported : Pipeline.Supports store.documents pipeline := hquery.supports_stages hpipeline
  exact SupportedAt.bind (supportedAt_stream hsupported) fun _ store' _ => supportedAt_pure _ store'

theorem supported_findEach (hquery : query.IsSupported) {failure : OperationError}
    (h : ((onStore config).findEach query store).1.failure = some failure) :
    failure.isUnsupported = false := by
  rw [findEach_eq] at h
  rcases hstart : (onStore config).startDelivery query store with ⟨earlier | delivery, final⟩
  · rw [hstart] at h
    cases h
    exact supportedAt_startDelivery hquery _ _ hstart
  · rw [hstart] at h
    dsimp only at h
    rw [failure_of_startDelivery hstart] at h
    cases h

/-- Whatever a store holds, a query of built-in nodes on paths, without inverse subsets between two
    fields and without update operators of the caller's own, does not fail on it for a stage, an
    operator, a variable or an accumulator that the engine does not know, run as a whole or read row
    by row. -/
theorem execute_supported (config : Config) {query : Query} (hquery : query.IsSupported)
    (store : Store) :
    (∀ failure final, (onStore config).execute query store = (.error failure, final) →
      failure.isUnsupported = false) ∧
      ∀ failure, ((onStore config).findEach query store).1.failure = some failure →
        failure.isUnsupported = false :=
  ⟨supportedAt_execute hquery, fun _ => supported_findEach hquery⟩

/-- A find with a join, a comparison of two fields, an alias, distinct rows, a sort and a limit
    fails on a user whose teams are no array, which is no fault of the engine's. -/
theorem execute_supported_teams :
    let query : Query := { Query.ofSchema "users" .find with
      joins := [.collection "teams" none .inner .id (.ofKey (.name "team"))]
      filters := [.group [.value (.ofKey (.name "age")) .notIn (.array []),
        .fields (.ofKey (.name "team")) .isIn (.ofKey (.name "teams"))] .and]
      outputs := [.raw (.path [.name "name"] none (some "who"))]
      distinct := true
      sorts := [.field (.ofKey (.name "age")) .ascending], limits := [.count 2] }
    let store : Store := ⟨[("teams", ⟨[[("_id", .int32 5)]], none, []⟩),
      ("users", ⟨[[("_id", .int32 1), ("team", .int32 5)]], none, []⟩)], 0⟩
    ∃ failure final, (onStore .standard).execute query store = (.error failure, final) ∧
      failure.isUnsupported = false := by
  intro query store
  have hpaths : ∀ key ∈ ["age", "team", "teams"], (Field.ofKey (.name key)).NamesPath "users" := by
    intro key hkey path hpath
    simp only [List.mem_cons, List.mem_nil_iff, or_false] at hkey
    rcases hkey with rfl | rfl | rfl <;> cases hpath <;> decide
  have hquery : query.IsSupported := by
    refine ⟨by simp [query, Join.isLookup], ⟨.inl rfl, ⟨.inl rfl, ⟨rfl, hpaths "age" (by decide)⟩,
      ⟨rfl, by decide, hpaths "team" (by decide), hpaths "teams" (by decide)⟩, trivial⟩, trivial⟩,
      ?_, by simp [query, Query.aggregates], by simp [query, SortKey.isBuiltIn], rfl⟩
    intro field hfield
    rw [List.mem_singleton.mp hfield]
    refine ⟨?_, ?_⟩
    · intro path hpath
      cases hpath
      decide
    · rintro aliasName ⟨⟩
      decide
  have hfails : ((onStore .standard).execute query store).1.toOption.isNone = true := by
    decide +kernel
  rcases hresult : (onStore .standard).execute query store with ⟨failure | outcome, final⟩
  · exact ⟨failure, final, rfl, (execute_supported .standard hquery store).1 _ _ hresult⟩
  · rw [hresult] at hfails
    cases hfails

end Executor

end DocQuery
