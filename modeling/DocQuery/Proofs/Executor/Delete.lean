import DocQuery.Proofs.Compile.Pipeline
import DocQuery.Proofs.Compile.Sort
import DocQuery.Proofs.Executor.Basic
import DocQuery.Proofs.Store.Distinct
import Mathlib.Data.List.Pairwise

/-!
# A delete removes what a find returns

A delete finds its documents by a predicate, or by the identities of a pipeline's rows; a find of
the same query runs that predicate or pipeline and returns the rows.  Where identities are distinct
and no array, both ways meet: the documents that go are those whose identity is that of a returned
row.
-/

namespace DocQuery

/-- Whether a document has an identity that equals that of one of the rows. -/
def Document.isAmong (doc : Document) (rows : List Document) : Bool :=
  rows.any fun row =>
    match doc.id?, row.id? with
    | some x, some y => x.equal y
    | _, _ => false

namespace Query

/-! ## Pipelines without requested outputs -/

/-- Without an aggregate it does not matter whether the aggregate is asked for. -/
theorem stages_of_outputs {query : Query} (houtputs : query.outputs = []) (encoder : Encoder) :
    query.stages encoder true = query.stages encoder false := by
  have haggregate : query.aggregate? = .ok none := by
    rw [aggregate?, aggregates, houtputs]
    rfl
  rw [stages_eq, stages_eq, haggregate]
  rfl

/-- The pipeline of a query that needs none only filters and sorts. -/
theorem stages_of_direct {query : Query} {encoder : Encoder} {withAggregate : Bool}
    {pipeline : List Document} (houtputs : query.outputs = []) (hdistinct : query.distinct = false)
    (hdirect : query.requiresPipeline = false)
    (h : query.stages encoder withAggregate = .ok pipeline) :
    ∃ predicate sort, query.predicate encoder = .ok predicate ∧
      SortKey.stage query.sorts query.schema = .ok sort ∧
      pipeline = (predicate.map Stage.keep).toList ++ sort.toList := by
  simp only [requiresPipeline, Bool.or_eq_false_iff, Bool.not_eq_false', List.isEmpty_iff]
    at hdirect
  obtain ⟨⟨⟨hjoins, -⟩, hnolimits⟩, hnooffsets⟩ := hdirect
  obtain ⟨predicate, sort, offsets, limits, hpredicate, hsort, hoffsets, hlimits, rfl⟩ :=
    stages_of_plain houtputs hdistinct hjoins h
  rw [hnolimits] at hlimits
  rw [hnooffsets] at hoffsets
  cases hlimits
  cases hoffsets
  exact ⟨predicate, sort, hpredicate, hsort, by simp⟩

end Query

/-! ## The two ways to find documents -/

section

variable {store : Store} {query : Query} {encoder : Encoder} {rows : List Document}

/-- A predicate finds the documents that the rows under it are: a document with the identity of a
    row is that row. -/
theorem isMatch_eq_isAmong_of_perm {docs : List Document} {predicate : Document}
    (hids : ∀ doc ∈ docs, doc.id?.isSome) (hdiffer : docs.Pairwise Document.IdsDiffer)
    (hrows : rows.Perm (docs.filter fun doc => doc.isMatch predicate)) {doc : Document}
    (hdoc : doc ∈ docs) : doc.isMatch predicate = doc.isAmong rows := by
  obtain ⟨id, hid⟩ := Option.isSome_iff_exists.mp (hids doc hdoc)
  rw [Bool.eq_iff_iff, Document.isAmong, List.any_eq_true]
  constructor
  · intro hmatch
    refine ⟨doc, hrows.mem_iff.mpr (List.mem_filter.mpr ⟨hdoc, hmatch⟩), ?_⟩
    simp [hid]
  · rintro ⟨row, hrow, hequal⟩
    obtain ⟨hrowdoc, hmatch⟩ := List.mem_filter.mp (hrows.mem_iff.mp hrow)
    by_cases hsame : doc = row
    · rw [hsame]
      exact hmatch
    · have hne := hdiffer.forall hdoc hrowdoc hsame
      obtain ⟨rowId, hrowId⟩ := Option.isSome_iff_exists.mp (hids row hrowdoc)
      have hequal : id.equal rowId = true := by simpa only [hid, hrowId] using hequal
      rw [hne id rowId hid hrowId] at hequal
      cases hequal

/-- The identities of rows find the documents with equal identities: an identity that is no array
    equals nothing but what it is equal to itself. -/
theorem isMatch_resolvedFilter {ids : List Value} (hrows : rows.map Document.id? = ids.map some)
    {doc : Document} {id : Value} (hid : doc.id? = some id) (harray : ∀ items, id ≠ .array items) :
    doc.isMatch (resolvedFilter ids) = doc.isAmong rows := by
  have hfield := Predicate.fieldEquals_of_not_array harray
  have hamong : doc.isAmong rows =
      (rows.map Document.id?).any fun found => found.any fun y => id.equal y := by
    rw [Document.isAmong, hid, List.any_map]
    congr 1
    funext row
    rw [Function.comp_apply]
    cases row.id? <;> rfl
  rw [Document.isMatch_of_satisfies (doc.satisfies_resolvedFilter ids), hid, hamong, hrows,
    List.any_map]
  exact congrArg (fun test => ids.any test) (funext hfield)

/-- Whatever way a delete takes, its predicate holds of the documents among the rows of the
    query. -/
theorem isMatch_of_finds {plan : WritePlan} {filter : Document} {pipeline : List Document}
    (houtputs : query.outputs = []) (hdistinct : query.distinct = false)
    (hids : ∀ doc ∈ store.documents query.schema,
      ∃ id, doc.id? = some id ∧ ∀ items, id ≠ .array items)
    (hdiffer : (store.documents query.schema).Pairwise Document.IdsDiffer)
    (hplan : query.writePlan encoder = .ok plan) (hfinds : store.Finds query.schema plan filter)
    (hpipeline : query.pipeline encoder = .ok pipeline)
    (hrun : Pipeline.run store.documents pipeline (store.documents query.schema) = .ok rows) :
    ∀ doc ∈ store.documents query.schema, doc.isMatch filter = doc.isAmong rows := by
  unfold Query.writePlan at hplan
  split at hplan
  -- The delete collects the identities of the rows of the find's own pipeline.
  · obtain ⟨stages, hstages, hplan⟩ := bind_eq_ok.mp hplan
    rw [Query.pipeline, Query.stages_of_outputs houtputs, hstages] at hpipeline
    cases hpipeline
    cases hplan
    obtain ⟨found, ids, hfound, hrows, rfl⟩ := Store.ids_of_finds hfinds
    rw [hrun] at hfound
    cases hfound
    intro doc hdoc
    obtain ⟨id, hid, harray⟩ := hids doc hdoc
    exact isMatch_resolvedFilter hrows hid harray
  -- The find's pipeline is the delete's predicate and perhaps a sort.
  · rename_i hdirect
    obtain ⟨predicate, hpredicate, hplan⟩ := bind_eq_ok.mp hplan
    cases hplan
    obtain ⟨predicate', sort, hpredicate', hsort, rfl⟩ :=
      Query.stages_of_direct houtputs hdistinct (Bool.eq_false_iff.mpr hdirect) hpipeline
    rw [hpredicate] at hpredicate'
    cases hpredicate'
    rw [Pipeline.run_append] at hrun
    obtain ⟨kept, hkept, hsorted⟩ := bind_eq_ok.mp hrun
    have hperm := Pipeline.run_sort hsort hsorted
    rw [(Pipeline.run_keep hkept).2] at hperm
    cases hfinds
    intro doc hdoc
    refine isMatch_eq_isAmong_of_perm ?_ hdiffer hperm hdoc
    intro other hother
    obtain ⟨id, hid, -⟩ := hids other hother
    rw [hid]
    rfl

end

/-- A delete takes out exactly the documents whose identity is that of a row that a find of the same
    query returns, keeps the others in order, and counts what it took; no other collection changes.
    The query filters, joins, sorts and windows its rows in any way, and its plan is a predicate or
    a pipeline. -/
theorem delete_removes_found (config : Config) (query : Query) {store afterFind final : Store}
    {rows : List Document} {deleted : Nat} (houtputs : query.outputs = [])
    (hdistinct : query.distinct = false)
    (hids : ∀ doc ∈ store.documents query.schema,
      ∃ id, doc.id? = some id ∧ ∀ items, id ≠ .array items)
    (hdiffer : (store.documents query.schema).Pairwise Document.IdsDiffer)
    (hfind : (Executor.onStore config).find { query with action := .find } store =
      (.ok rows, afterFind))
    (hdelete : (Executor.onStore config).delete { query with action := .delete } store =
      (.ok deleted, final)) :
    final.documents query.schema =
        ((store.documents query.schema).filter fun doc => !doc.isAmong rows) ∧
      deleted = ((store.documents query.schema).filter fun doc => doc.isAmong rows).length ∧
      ∀ other ≠ query.schema, final.collection? other = store.collection? other := by
  obtain ⟨-, pipeline, aggregate, found, hpipeline, haggregate, hrun, hrows⟩ :=
    Executor.find_eq_ok hfind
  obtain ⟨-, plan, filter, hplan, hfinds, hdeleted⟩ := Executor.delete_eq_ok hdelete
  have hnone : query.aggregate? = .ok none := by
    rw [Query.aggregate?, Query.aggregates, houtputs]
    rfl
  have hsame : aggregate = none := Except.ok.inj (haggregate.symm.trans hnone)
  subst hsame
  subst hrows
  have hmatch := isMatch_of_finds houtputs hdistinct hids hdiffer hplan hfinds hpipeline hrun
  obtain ⟨hdocuments, hcount, hothers⟩ := Store.deleteMany_eq_ok hdeleted
  refine ⟨hdocuments.trans ?_, hcount.trans ?_, hothers⟩
  · exact List.filter_congr fun doc hdoc => congrArg not (hmatch doc hdoc)
  · exact congrArg List.length (List.filter_congr hmatch)

/-- The oldest of three users, whom the delete finds by the identities of a pipeline's rows. -/
theorem delete_removes_found_oldest :
    ∃ (query : Query) (store final : Store) (rows : List Document) (deleted : Nat),
      query.sorts = [.field (.dotted "age") .descending] ∧ query.limits = [.count 1] ∧
      store.documents "users" = [[("_id", .int32 1), ("age", .int32 30)],
        [("_id", .int32 2), ("age", .int32 40)], [("_id", .int32 3), ("age", .int32 20)]] ∧
      rows.length = 1 ∧
      final.documents "users" =
        ((store.documents "users").filter fun doc => !doc.isAmong rows) ∧
      deleted = ((store.documents "users").filter fun doc => doc.isAmong rows).length := by
  let query : Query := { Query.ofSchema "users" .find with
    sorts := [.field (.dotted "age") .descending], limits := [.count 1] }
  let docs : List Document := [[("_id", .int32 1), ("age", .int32 30)],
    [("_id", .int32 2), ("age", .int32 40)], [("_id", .int32 3), ("age", .int32 20)]]
  let store : Store := ⟨[("users", ⟨docs, none, []⟩)], 0⟩
  have hdocs : store.documents query.schema = docs := rfl
  have hids : ∀ doc ∈ store.documents query.schema,
      ∃ id, doc.id? = some id ∧ ∀ items, id ≠ .array items := by
    intro doc hdoc
    simp only [hdocs, docs, List.mem_cons, List.not_mem_nil, or_false] at hdoc
    rcases hdoc with rfl | rfl | rfl
    · exact ⟨.int32 1, rfl, nofun⟩
    · exact ⟨.int32 2, rfl, nofun⟩
    · exact ⟨.int32 3, rfl, nofun⟩
  have hdiffer : (store.documents query.schema).Pairwise Document.IdsDiffer := by
    rw [hdocs]
    refine .cons ?_ (.cons ?_ (.cons nofun .nil))
    · rintro other (_ | ⟨_, _ | ⟨_, ⟨⟩⟩⟩) x y ⟨⟩ ⟨⟩ <;> decide
    · rintro other (_ | ⟨_, ⟨⟩⟩) x y ⟨⟩ ⟨⟩
      decide
  have hcount : ((Executor.onStore .standard).find { query with action := .find }
      store).1.toOption.map List.length = some 1 := by
    decide +kernel
  have hsome : ((Executor.onStore .standard).delete { query with action := .delete }
      store).1.toOption.isSome = true := by
    decide +kernel
  rcases hfind : (Executor.onStore .standard).find { query with action := .find } store
    with ⟨rows | rows, afterFind⟩
  · rw [hfind] at hcount
    cases hcount
  rcases hdelete : (Executor.onStore .standard).delete { query with action := .delete } store
    with ⟨deleted | deleted, final⟩
  · rw [hdelete] at hsome
    cases hsome
  rw [hfind] at hcount
  obtain ⟨hremoved, hdeleted, -⟩ :=
    delete_removes_found .standard query rfl rfl hids hdiffer hfind hdelete
  exact ⟨query, store, final, rows, deleted, rfl, rfl, hdocs, Option.some.inj hcount, hremoved,
    hdeleted⟩

end DocQuery
