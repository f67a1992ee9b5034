import DocQuery.Executor
import DocQuery.Proofs.Compile.Rows
import DocQuery.Proofs.Store.Basic

/-!
# What an executor does on a store

A successful read is a successful compilation followed by a successful run of the pipeline.  A
successful write is a successful plan, a predicate found by it, and the store's operation under that
predicate.
-/

namespace DocQuery

theorem Compiled.run_eq {σ α : Type} (result : Compiled α) (state : σ) :
    (result.run : Operation σ α) state = (result.mapError .compile, state) := by
  cases result <;> rfl

theorem Compiled.run_eq_ok {σ α : Type} {result : Compiled α} {value : α} {state final : σ} :
    (result.run : Operation σ α) state = (.ok value, final) ↔
      result = .ok value ∧ state = final := by
  rw [run_eq, Prod.mk.injEq, mapError_eq_ok]

theorem Compiled.run_eq_error {σ α : Type} {result : Compiled α} {failure : OperationError}
    {state final : σ} (h : (result.run : Operation σ α) state = (.error failure, final)) :
    final = state := by
  rw [run_eq, Prod.mk.injEq] at h
  exact h.2.symm

/-- The first of the reported write errors decides, and the state stays. -/
theorem checkWriteErrors_eq {σ : Type} (errors : List WriteError) (state : σ) :
    (checkWriteErrors errors : Operation σ Unit) state =
      (match errors with
        | [] => .ok ()
        | first :: _ => .error first.toOperationError, state) := by
  cases errors <;> rfl

theorem eq_of_checkWriteErrors {σ : Type} {errors : List WriteError} {state final : σ}
    (h : (checkWriteErrors errors : Operation σ Unit) state = (.ok (), final)) : state = final := by
  rw [checkWriteErrors_eq, Prod.mk.injEq] at h
  exact h.2

theorem RowStream.collect_map_ok (rows : List Document) :
    RowStream.collect (rows.map .ok) = .ok rows := by
  induction rows with
  | nil => rfl
  | cons row rest ih =>
    unfold RowStream.collect at ih ⊢
    rw [List.map_cons, List.mapM_cons, ih]
    rfl

theorem RowStream.deliver_map_ok (rows : List Document) :
    RowStream.deliver (rows.map .ok) = (rows, none) := by
  induction rows with
  | nil => rfl
  | cons row rest ih => rw [List.map_cons, RowStream.deliver, ih]

theorem collectIds_cons_of_none {row : Document} (hid : row.id? = none) (rest : List Document) :
    collectIds ((row :: rest).map .ok) = .error (.rowWithoutId row) := by
  rw [List.map_cons, collectIds]
  dsimp only [bind, Except.bind]
  rw [hid]

theorem collectIds_cons_of_some {row : Document} {id : Value} (hid : row.id? = some id)
    (rest : List Document) :
    collectIds ((row :: rest).map .ok) =
      collectIds (rest.map .ok) >>= fun others => pure (id :: others) := by
  rw [List.map_cons, collectIds]
  dsimp only [bind, Except.bind]
  rw [hid]

/-- Rows yield identities exactly if each of them has one. -/
theorem collectIds_map_ok {rows : List Document} {ids : List Value} :
    collectIds (rows.map .ok) = .ok ids ↔ rows.map Document.id? = ids.map some := by
  induction rows generalizing ids with
  | nil =>
    constructor
    · intro h
      cases h
      rfl
    · intro h
      rw [List.map_eq_nil_iff.mp h.symm]
      rfl
  | cons row rest ih =>
    cases hid : row.id? with
    | none =>
      rw [collectIds_cons_of_none hid, List.map_cons, hid]
      constructor
      · intro h
        cases h
      · intro h
        cases ids <;> cases h
    | some id =>
      rw [collectIds_cons_of_some hid, List.map_cons, hid]
      constructor
      · intro h
        obtain ⟨others, hothers, h⟩ := bind_eq_ok.mp h
        cases h
        rw [List.map_cons, ih.mp hothers]
      · intro h
        cases ids with
        | nil => cases h
        | cons first others =>
          rw [List.map_cons, List.cons.injEq, Option.some.injEq] at h
          obtain ⟨rfl, h⟩ := h
          exact bind_eq_ok.mpr ⟨others, ih.mpr h, rfl⟩

namespace Query

theorem mem_of_expectAction {query : Query} {allowed : List Action}
    (h : query.expectAction allowed = .ok ()) : query.action ∈ allowed := by
  unfold expectAction at h
  split at h
  · assumption
  · cases h

/-- The read of a query is compiled from its pipeline and its aggregate. -/
theorem readCommand_eq_ok {query : Query} {encoder : Encoder} {command : ReadCommand}
    (h : query.readCommand encoder = .ok command) :
    query.action = .find ∧ ∃ pipeline aggregate,
      query.pipeline encoder = .ok pipeline ∧ query.aggregate? = .ok aggregate ∧
      command = ⟨query.schema, pipeline, aggregate, query.options⟩ := by
  obtain ⟨⟨⟩, haction, h⟩ := bind_eq_ok.mp h
  obtain ⟨pipeline, hpipeline, h⟩ := bind_eq_ok.mp h
  obtain ⟨aggregate, haggregate, h⟩ := bind_eq_ok.mp h
  exact ⟨List.mem_singleton.mp (mem_of_expectAction haction), pipeline, aggregate, hpipeline,
    haggregate, (pure_eq_ok.mp h).symm⟩

/-- The insert of a query is compiled from its rows, of which there is at least one. -/
theorem insertCommand_eq_ok {query : Query} {encoder : Encoder} {command : InsertCommand} :
    query.insertCommand encoder = .ok command ↔
      query.action = .insert ∧ query.input ≠ [] ∧
        List.Forall₂ (fun row doc => Operand.encodeRow encoder row = .ok doc)
          query.input command.documents ∧ command.collection = query.schema := by
  constructor
  · intro h
    obtain ⟨⟨⟩, haction, h⟩ := bind_eq_ok.mp h
    split at h
    · cases h
    · rename_i hinput
      obtain ⟨documents, hdocuments, h⟩ := bind_eq_ok.mp h
      cases h
      refine ⟨List.mem_singleton.mp (mem_of_expectAction haction), ?_, mapM_eq_ok.mp hdocuments,
        rfl⟩
      intro hempty
      rw [hempty] at hinput
      exact hinput rfl
  · rintro ⟨haction, hinput, hrows, hschema⟩
    obtain ⟨collection, documents⟩ := command
    dsimp only at hrows hschema
    subst hschema
    have hexpected : query.expectAction [.insert] = .ok () := by
      rw [expectAction, if_pos (by simp [haction])]
    refine bind_eq_ok.mpr ⟨(), hexpected, ?_⟩
    rw [if_neg (by simpa using hinput)]
    exact bind_eq_ok.mpr ⟨documents, mapM_eq_ok.mpr hrows, rfl⟩

/-- The update of a query is compiled from its plan and its changes; it may have nothing to
    change. -/
theorem writeCommand_update_eq_ok {query : Query} {encoder : Encoder} {command : WriteCommand}
    (haction : query.action = .update) (h : query.writeCommand encoder = .ok command) :
    ∃ plan changed, query.writePlan encoder = .ok plan ∧
      query.changes.update encoder = .ok changed ∧
      command = .update query.schema plan (mergeUpdate changed query.customUpdate) := by
  obtain ⟨-, -, h⟩ := bind_eq_ok.mp h
  obtain ⟨plan, hplan, h⟩ := bind_eq_ok.mp h
  rw [if_pos haction] at h
  obtain ⟨changed, hchanged, h⟩ := bind_eq_ok.mp h
  exact ⟨plan, changed, hplan, hchanged, (pure_eq_ok.mp h).symm⟩

/-- The delete of a query is compiled from its plan. -/
theorem writeCommand_delete_eq_ok {query : Query} {encoder : Encoder} {command : WriteCommand}
    (haction : query.action = .delete) (h : query.writeCommand encoder = .ok command) :
    ∃ plan, query.writePlan encoder = .ok plan ∧ command = .delete query.schema plan := by
  obtain ⟨-, -, h⟩ := bind_eq_ok.mp h
  obtain ⟨plan, hplan, h⟩ := bind_eq_ok.mp h
  rw [if_neg (by rw [haction]; decide)] at h
  exact ⟨plan, hplan, (pure_eq_ok.mp h).symm⟩

end Query

namespace Store

theorem backend_aggregate_eq (name : String) (stages : List Document) (options : ReadOptions)
    (store : Store) :
    backend.aggregate name stages options store =
      (((Pipeline.run store.documents stages (store.documents name)).mapError .store).map
        (List.map .ok), store) := by
  show (aggregate name stages >>= fun rows => pure (rows.map .ok) : Operation Store RowStream)
    store = _
  rw [Operation.bind_eq, aggregate_eq]
  cases Pipeline.run store.documents stages (store.documents name) <;> rfl

theorem backend_aggregate_eq_ok {name : String} {stages : List Document} {options : ReadOptions}
    {store final : Store} {stream : RowStream} :
    backend.aggregate name stages options store = (.ok stream, final) ↔
      ∃ rows, Pipeline.run store.documents stages (store.documents name) = .ok rows ∧
        stream = rows.map .ok ∧ final = store := by
  rw [backend_aggregate_eq, Prod.mk.injEq, map_eq_ok]
  constructor
  · rintro ⟨⟨rows, hrun, rfl⟩, rfl⟩
    exact ⟨rows, mapError_eq_ok.mp hrun, rfl, rfl⟩
  · rintro ⟨rows, hrun, rfl, rfl⟩
    exact ⟨⟨rows, mapError_eq_ok.mpr hrun, rfl⟩, rfl⟩

theorem liftExcept_eq {α : Type} (result : Except OperationError α) (store : Store) :
    (Backend.resolveIds.liftExcept result : Operation Store α) store = (result, store) := by
  cases result <;> rfl

/-- Finding the documents of a plan leaves the store as it is, whether it succeeds or fails. -/
theorem targetFilter_snd (name : String) (plan : WritePlan) (options : ReadOptions)
    (store : Store) : (backend.targetFilter name plan options store).2 = store := by
  cases plan with
  | direct predicate => rfl
  | resolveIds pipeline =>
    show (((backend.aggregate name pipeline options >>= fun stream =>
      Backend.resolveIds.liftExcept (collectIds stream)) >>= fun ids =>
        pure (resolvedFilter ids) : Operation Store Document) store).2 = store
    rw [Operation.bind_eq, Operation.bind_eq, backend_aggregate_eq]
    cases Pipeline.run store.documents pipeline (store.documents name) with
    | error fault => rfl
    | ok rows =>
      dsimp only [Except.mapError, Except.map]
      rw [liftExcept_eq]
      cases collectIds (rows.map .ok) <;> rfl

theorem liftExcept_eq_ok {α : Type} {result : Except OperationError α} {value : α}
    {store final : Store} :
    (Backend.resolveIds.liftExcept result : Operation Store α) store = (.ok value, final) ↔
      result = .ok value ∧ store = final := by
  rw [liftExcept_eq, Prod.mk.injEq]

/-- What a plan finds: its predicate, or the identities of its pipeline's rows. -/
def Finds (store : Store) (name : String) : WritePlan → Document → Prop
  | .direct predicate, filter => filter = predicate
  | .resolveIds pipeline, filter => ∃ rows ids,
      Pipeline.run store.documents pipeline (store.documents name) = .ok rows ∧
      rows.map Document.id? = ids.map some ∧ filter = resolvedFilter ids

/-- The identities that a plan finds are those of the rows of the query's own stages. -/
theorem ids_of_finds {store : Store} {name : String} {stages : List Document} {filter : Document}
    (h : store.Finds name (.resolveIds (stages ++ [Stage.idOnly])) filter) :
    ∃ rows ids, Pipeline.run store.documents stages (store.documents name) = .ok rows ∧
      rows.map Document.id? = ids.map some ∧ filter = resolvedFilter ids := by
  obtain ⟨idRows, ids, hrun, hcollected, rfl⟩ := h
  rw [Pipeline.run_append] at hrun
  obtain ⟨rows, hrows, hrun⟩ := bind_eq_ok.mp hrun
  rw [Pipeline.run_singleton, Pipeline.runStage_idOnly] at hrun
  cases hrun
  rw [List.map_map] at hcollected
  refine ⟨rows, ids, hrows, Eq.trans ?_ hcollected, rfl⟩
  exact List.map_congr_left fun row _ => (Pipeline.id?_idRow row).symm

theorem finds_of_targetFilter {name : String} {plan : WritePlan} {options : ReadOptions}
    {store final : Store} {filter : Document}
    (h : backend.targetFilter name plan options store = (.ok filter, final)) :
    store.Finds name plan filter ∧ store = final := by
  cases plan with
  | direct predicate =>
    obtain ⟨rfl, rfl⟩ := Operation.pure_eq_ok.mp h
    exact ⟨rfl, rfl⟩
  | resolveIds pipeline =>
    obtain ⟨ids, store', hresolve, hfilter⟩ := Operation.bind_eq_ok.mp h
    obtain ⟨stream, store'', hstream, hlift⟩ := Operation.bind_eq_ok.mp hresolve
    obtain ⟨rows, hrun, rfl, rfl⟩ := backend_aggregate_eq_ok.mp hstream
    obtain ⟨hcollect, rfl⟩ := liftExcept_eq_ok.mp hlift
    obtain ⟨rfl, rfl⟩ := Operation.pure_eq_ok.mp hfilter
    exact ⟨⟨rows, ids, hrun, collectIds_map_ok.mp hcollect, rfl⟩, rfl⟩

end Store

namespace Executor

variable {config : Config} {query : Query} {store final : Store}

/-- The executor on a store. -/
def onStore (config : Config) : Executor Store := ⟨Store.backend, config⟩

/-- A read row by row that does not start hands out no rows. -/
theorem findEach_eq {σ : Type} (executor : Executor σ) (query : Query) (state : σ) :
    executor.findEach query state =
      match executor.startDelivery query state with
      | (.ok delivery, final) => (delivery, final)
      | (.error failure, final) => (⟨[], some failure⟩, final) := by
  unfold findEach
  generalize executor.startDelivery query = start
  simp only [bind, StateT.bind, ExceptT.run]
  rcases start state with ⟨failure | delivery, final⟩ <;> rfl

/-- A find that returns rows has run the query's pipeline. -/
theorem find_eq_ok {rows : List Document}
    (h : (onStore config).find query store = (.ok rows, final)) :
    query.action = .find ∧ ∃ pipeline aggregate found,
      query.pipeline config.encoder = .ok pipeline ∧ query.aggregate? = .ok aggregate ∧
      Pipeline.run store.documents pipeline (store.documents query.schema) = .ok found ∧
      rows =
        ReadCommand.normalizeRows ⟨query.schema, pipeline, aggregate, query.options⟩ found := by
  obtain ⟨command, store', hcompiled, hread⟩ := Operation.bind_eq_ok.mp h
  obtain ⟨hcommand, rfl⟩ := Compiled.run_eq_ok.mp hcompiled
  obtain ⟨haction, pipeline, aggregate, hpipeline, haggregate, rfl⟩ :=
    Query.readCommand_eq_ok hcommand
  obtain ⟨stream, store', hstream, hrows⟩ := Operation.bind_eq_ok.mp hread
  obtain ⟨found, hrun, rfl, rfl⟩ := Store.backend_aggregate_eq_ok.mp hstream
  rw [RowStream.collect_map_ok] at hrows
  obtain ⟨rfl, -⟩ := Operation.pure_eq_ok.mp hrows
  exact ⟨haction, pipeline, aggregate, found, hpipeline, haggregate, hrun, rfl⟩

/-- A find whose pipeline runs returns the rows of the run; an aggregate over no rows has its own. -/
theorem find_of_passage (config : Config) (haction : query.action = .find)
    {parts : query.Parts config.encoder true} {out : List Document}
    (passage : parts.Passage store.documents (store.documents query.schema) out) :
    (onStore config).find query store =
      (.ok (parts.aggregate.elim out fun aggregate => aggregate.normalizeRows out), store) := by
  have hcommand : query.readCommand config.encoder =
      .ok ⟨query.schema, parts.stages, parts.aggregate, query.options⟩ := by
    rw [Query.readCommand, Query.expectAction, if_pos (by simp [haction]), Query.pipeline,
      parts.stages_eq_ok, parts.aggregate_eq]
    rfl
  have hstream : (onStore config).stream
      ⟨query.schema, parts.stages, parts.aggregate, query.options⟩ store =
        (.ok (out.map .ok), store) :=
    Store.backend_aggregate_eq_ok.mpr ⟨out, passage.run_eq, rfl, rfl⟩
  unfold find
  refine (Operation.bind_of_ok (Compiled.run_eq_ok.mpr ⟨hcommand, rfl⟩) _).trans ?_
  refine (Operation.bind_of_ok hstream _).trans ?_
  rw [RowStream.collect_map_ok]
  cases parts.aggregate <;> rfl

/-- A find that returns rows passes through the parts of its pipeline; an aggregate over no rows has
    its own. -/
theorem passage_of_find {rows : List Document}
    (h : (onStore config).find query store = (.ok rows, final)) :
    ∃ (parts : query.Parts config.encoder true) (out : List Document),
      Nonempty (parts.Passage store.documents (store.documents query.schema) out) ∧
      rows = parts.aggregate.elim out fun aggregate => aggregate.normalizeRows out := by
  obtain ⟨-, pipeline, aggregate, found, hpipeline, haggregate, hrun, rfl⟩ := find_eq_ok h
  obtain ⟨parts, rfl⟩ := Query.parts_of_stages hpipeline
  refine ⟨parts, found, parts.passage_of_run hrun, ?_⟩
  cases haggregate.symm.trans parts.aggregate_eq
  cases hparts : parts.aggregate <;> rfl

/-- The pipeline of a find without an aggregate ends in the rows that are returned. -/
theorem passage_of_find_rows {rows : List Document} (haggregates : query.aggregates = [])
    (h : (onStore config).find query store = (.ok rows, final)) :
    ∃ parts : query.Parts config.encoder true,
      Nonempty (parts.Passage store.documents (store.documents query.schema) rows) ∧
      parts.aggregated = [] := by
  obtain ⟨parts, out, hpassage, hrows⟩ := passage_of_find h
  obtain ⟨hnone, haggregated⟩ := parts.aggregated_of_none haggregates
  rw [hnone] at hrows
  exact ⟨parts, hrows ▸ hpassage, haggregated⟩

/-- A delete that reaches the store has planned, found its predicate and deletes under it; one that
    does not fails and leaves the store as it is. -/
theorem delete_cases {result : Except OperationError Nat}
    (h : (onStore config).delete query store = (result, final)) :
    (∃ failure, result = .error failure) ∧ final = store ∨
      query.action = .delete ∧ ∃ plan filter,
        query.writePlan config.encoder = .ok plan ∧ store.Finds query.schema plan filter ∧
        Store.deleteMany query.schema filter store = (result, final) := by
  rcases Operation.bind_cases h with ⟨failure, hfails, rfl⟩ | ⟨⟨⟩, store', hallowed, hwrite⟩
  · exact .inl ⟨⟨failure, rfl⟩, Compiled.run_eq_error hfails⟩
  obtain ⟨hexpected, rfl⟩ := Compiled.run_eq_ok.mp hallowed
  have haction := List.mem_singleton.mp (Query.mem_of_expectAction hexpected)
  rcases Operation.bind_cases hwrite with
    ⟨failure, hfails, rfl⟩ | ⟨command, store', hcompiled, htarget⟩
  · exact .inl ⟨⟨failure, rfl⟩, Compiled.run_eq_error hfails⟩
  obtain ⟨hcommand, rfl⟩ := Compiled.run_eq_ok.mp hcompiled
  obtain ⟨plan, hplan, rfl⟩ := Query.writeCommand_delete_eq_ok haction hcommand
  rcases Operation.bind_cases htarget with
    ⟨failure, hfails, rfl⟩ | ⟨filter, store', hfilter, hdelete⟩
  · refine .inl ⟨⟨failure, rfl⟩, ?_⟩
    exact (congrArg Prod.snd hfails).symm.trans (Store.targetFilter_snd _ _ _ _)
  · obtain ⟨hfinds, rfl⟩ := Store.finds_of_targetFilter hfilter
    exact .inr ⟨haction, plan, filter, hplan, hfinds, hdelete⟩

/-- A delete that succeeds has planned, found its predicate and deleted under it. -/
theorem delete_eq_ok {deleted : Nat}
    (h : (onStore config).delete query store = (.ok deleted, final)) :
    query.action = .delete ∧ ∃ plan filter,
      query.writePlan config.encoder = .ok plan ∧ store.Finds query.schema plan filter ∧
      Store.deleteMany query.schema filter store = (.ok deleted, final) :=
  (delete_cases h).resolve_left fun hfails => nomatch hfails.1

/-- An update that succeeds has nothing to change, or has planned, found its predicate and updated
    under it. -/
theorem update_eq_ok {outcome : UpdateOutcome}
    (h : (onStore config).update query store = (.ok outcome, final)) :
    outcome = .nothing ∨ ∃ plan filter update,
      query.writePlan config.encoder = .ok plan ∧ store.Finds query.schema plan filter ∧
      Store.updateMany query.schema filter update store = (.ok outcome, final) := by
  obtain ⟨⟨⟩, store', hallowed, hwrite⟩ := Operation.bind_eq_ok.mp h
  obtain ⟨hexpected, rfl⟩ := Compiled.run_eq_ok.mp hallowed
  have haction := List.mem_singleton.mp (Query.mem_of_expectAction hexpected)
  obtain ⟨command, store', hcompiled, htarget⟩ := Operation.bind_eq_ok.mp hwrite
  obtain ⟨hcommand, rfl⟩ := Compiled.run_eq_ok.mp hcompiled
  obtain ⟨plan, changed, hplan, -, rfl⟩ := Query.writeCommand_update_eq_ok haction hcommand
  generalize mergeUpdate changed query.customUpdate = update at htarget
  cases update with
  | none =>
    obtain ⟨rfl, -⟩ := Operation.pure_eq_ok.mp htarget
    exact .inl rfl
  | some update =>
    obtain ⟨filter, store', hfilter, hupdate⟩ := Operation.bind_eq_ok.mp htarget
    obtain ⟨hfinds, rfl⟩ := Store.finds_of_targetFilter hfilter
    obtain ⟨reported, store', hreported, hchecked⟩ := Operation.bind_eq_ok.mp hupdate
    obtain ⟨⟨⟩, store'', hcheck, hchecked⟩ := Operation.bind_eq_ok.mp hchecked
    obtain ⟨rfl, rfl⟩ := Operation.pure_eq_ok.mp hchecked
    obtain rfl := eq_of_checkWriteErrors hcheck
    exact .inr ⟨plan, filter, update, hplan, hfinds, hreported⟩

end Executor

end DocQuery
