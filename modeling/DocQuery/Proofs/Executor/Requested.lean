import DocQuery.Proofs.Compile.Aggregate
import DocQuery.Proofs.Compile.Exclusion
import DocQuery.Proofs.Compile.Projection
import DocQuery.Proofs.Compile.Sort
import DocQuery.Proofs.Executor.Basic

/-!
# What requesting fields changes

A find that requests fields projects its rows to them before it sorts, takes a window and reduces.
The projected rows are those of the find that requests none, and they read alike wherever the
projection shows them, so the later stages do the same as far as they look there.  At the end, joined
documents are removed; requested outputs stay where the removal keeps them.
-/

namespace DocQuery

open Pipeline

/-- The query with other outputs. -/
def Query.requesting (query : Query) (outputs : List Output) : Query :=
  { query with outputs := outputs }

namespace Query

variable {query : Query} {outputs : List Output} {encoder : Encoder} {withAggregate : Bool}
  {source : String → List Document} {rows out out' : List Document}
  {parts : query.Parts encoder withAggregate}
  {parts' : (query.requesting outputs).Parts encoder withAggregate}

theorem rawFields_requesting (query : Query) (fields : List Field) :
    (query.requesting (fields.map .raw)).rawFields = fields := by
  simp [requesting, rawFields]

theorem aggregates_requesting (query : Query) (fields : List Field) :
    (query.requesting (fields.map .raw)).aggregates = [] := by
  simp [requesting, aggregates]

/-- Outputs that request the same fields leave the stages of distinct rows as they are. -/
theorem requestedDistinctStages_requesting
    (h : (query.requesting outputs).rawFields = query.rawFields) :
    (query.requesting outputs).requestedDistinctStages = query.requestedDistinctStages := by
  unfold requestedDistinctStages distinctStages distinctId
  rw [h]
  rfl

/-- Outputs that request the same fields leave the removal of joined documents as it is. -/
theorem aliasExclusion_requesting (h : (query.requesting outputs).rawFields = query.rawFields) :
    (query.requesting outputs).aliasExclusion = query.aliasExclusion := by
  unfold aliasExclusion unaliasedPaths
  rw [h]
  rfl

/-- The rows that are found depend on no outputs. -/
theorem found_requesting (passage : parts.Passage source rows out)
    (passage' : parts'.Passage source rows out') : passage'.found = passage.found := by
  have hstages : parts'.found = parts.found :=
    Except.ok.inj (parts'.found_eq.symm.trans parts.found_eq)
  have hrun := passage'.found_eq
  rw [hstages, passage.found_eq] at hrun
  exact (Except.ok.inj hrun).symm

theorem sort_requesting (parts : query.Parts encoder withAggregate)
    (parts' : (query.requesting outputs).Parts encoder withAggregate) :
    parts'.sort = parts.sort :=
  Except.ok.inj (parts'.sort_eq.symm.trans parts.sort_eq)

/-- The rows that come to the sort read alike wherever requested fields without aliases show them. -/
theorem showsAs_requesting {fields : List Field} (hfields : query.rawFields = [])
    (hdistinct : query.distinct = false) (haliases : ∀ field ∈ fields, field.aliasName? = none)
    {parts' : (query.requesting (fields.map .raw)).Parts encoder withAggregate}
    (passage : parts.Passage source rows out) (passage' : parts'.Passage source rows out') :
    List.Forall₂ (query.requesting (fields.map .raw)).ShowsAs passage.distinct
      passage'.distinct := by
  rw [passage.distinct_eq_projected hdistinct, passage.projected_eq_found hfields,
    passage'.distinct_eq_projected hdistinct, ← found_requesting passage passage']
  refine showsAs_projectedStages ?_ parts'.projected_eq passage'.projected_eq
  rw [query.rawFields_requesting]
  exact haliases

/-- The rows that come to an aggregate have its input alike, if no alias is put out above, at or below
    it. -/
theorem seesAs_requesting {field : Field} {method : AggregateMethod} (hfields : query.rawFields = [])
    (hdistinct : query.distinct = false) (hsorts : query.sorts = [])
    (haggregate : parts'.aggregate = some (.field field method))
    (hinput : method ≠ .count → ∀ path, field.storagePath query.schema = .ok path →
      path ≠ "$ROOT" ∧ (query.requesting outputs).AliasesBeside path)
    (passage : parts.Passage source rows out) (passage' : parts'.Passage source rows out') :
    List.Forall₂ (Aggregate.SeesAs query.schema field method) (query.window passage.sorted)
      (query.window passage'.sorted) := by
  refine query.forall₂_window ?_
  rw [passage.sorted_eq_distinct hsorts, passage.distinct_eq_projected hdistinct,
    passage.projected_eq_found hfields, passage'.sorted_eq_distinct hsorts,
    passage'.distinct_eq_projected hdistinct, ← found_requesting passage passage']
  refine (readsAs_projectedStages parts'.projected_eq passage'.projected_eq).imp ?_
  intro row other hreads hcount path hpath
  obtain ⟨hroot, hbeside⟩ := hinput hcount path hpath
  have hasked : (query.requesting outputs).AsksFor parts'.aggregate path :=
    .inr (.inr ⟨field, method, haggregate, hpath⟩)
  exact evaluatesAs_reference hroot (hreads path hasked hbeside)

/-- Joined documents under names apart from that of an aggregate's result leave it in the rows. -/
theorem readsResult_of_passage
    (hjoins : ∀ aliasName, query.Joins aliasName → Path.Apart aliasName aggregateResultName)
    (passage : parts.Passage source rows out) :
    List.Forall₂ (Document.ReadsAs aggregateResultName) passage.reduced out := by
  refine (readsAs_aliasExclusion parts.exclusion_eq passage.out_eq).imp ?_
  intro row left hreads
  refine hreads aggregateResultName ?_
  intro aliasName hjoined
  exact .inl (hjoins aliasName hjoined)

end Query

namespace Executor

/-! ## Order -/

/-- Requesting fields without aliases changes neither the returned identities nor their order, if
    the query has no outputs, joins and demand for distinct rows of its own and the requested fields
    show every path that it sorts by.  Whatever it sorts by, the same documents are returned if it has
    no window. -/
theorem ids_of_find_requesting (config : Config) {query : Query} {fields : List Field}
    {store final final' : Store} {rows requested : List Document} (houtputs : query.outputs = [])
    (hdistinct : query.distinct = false) (hjoins : query.joins = [])
    (haliases : ∀ field ∈ fields, field.aliasName? = none)
    (hfind : (onStore config).find query store = (.ok rows, final))
    (hrequested : (onStore config).find (query.requesting (fields.map .raw)) store =
      (.ok requested, final')) :
    ((∀ sort ∈ query.sorts, ∀ path, sort.Reads query.schema path →
        (query.requesting (fields.map .raw)).Shows path) →
      requested.map Document.id? = rows.map Document.id?) ∧
    (query.offsets = [] → query.limits = [] →
      (requested.map Document.id?).Perm (rows.map Document.id?)) := by
  have haggregates : query.aggregates = [] := by
    rw [Query.aggregates, houtputs]
    rfl
  have hfields : query.rawFields = [] := by
    rw [Query.rawFields, houtputs]
    rfl
  obtain ⟨parts, ⟨passage⟩, haggregated⟩ := passage_of_find_rows haggregates hfind
  obtain ⟨parts', ⟨passage'⟩, haggregated'⟩ :=
    passage_of_find_rows (query.aggregates_requesting fields) hrequested
  have hshows := Query.showsAs_requesting hfields hdistinct haliases passage passage'
  have hrows : rows = query.window passage.sorted :=
    (passage.out_eq_reduced hjoins).trans (passage.reduced_eq_window haggregated)
  have hrows' : requested = query.window passage'.sorted :=
    (passage'.out_eq_reduced hjoins).trans (passage'.reduced_eq_window haggregated')
  refine ⟨fun hshown => ?_, fun hoffsets hlimits => ?_⟩
  · -- The sort looks at shown paths only, so it puts the rows of the two finds in the same order.
    have hsorted := passage'.sorted_eq
    rw [Query.sort_requesting parts parts'] at hsorted
    have hreads : ∀ row other : Document,
        (query.requesting (fields.map .raw)).ShowsAs row other → ∀ sort ∈ query.sorts, ∀ path,
          sort.Reads query.schema path → row.ReadsAs path other := by
      intro row other hrow sort hsort path hpath
      exact hrow path (hshown sort hsort path hpath)
    have hwindow := query.forall₂_window
      (forall₂_sort hreads hshows parts.sort_eq passage.sorted_eq hsorted)
    calc requested.map Document.id?
        = (query.window passage'.sorted).map Document.id? := congrArg _ hrows'
      _ = (query.window passage.sorted).map Document.id? := Query.map_id?_of_showsAs hwindow
      _ = rows.map Document.id? := congrArg _ hrows.symm
  · rw [Query.window_eq_self hoffsets hlimits] at hrows hrows'
    have hperm : (passage.sorted.map Document.id?).Perm (passage.distinct.map Document.id?) :=
      (run_sort parts.sort_eq passage.sorted_eq).map _
    have hperm' : (passage'.sorted.map Document.id?).Perm (passage'.distinct.map Document.id?) :=
      (run_sort parts'.sort_eq passage'.sorted_eq).map _
    rw [Query.map_id?_of_showsAs hshows] at hperm'
    exact hrows ▸ hrows' ▸ hperm'.trans hperm.symm

/-- Of two users the younger one is found, with or without requested fields that show the age.  Sorted
    by an age that is not shown, both are found with their names, in another order. -/
theorem ids_of_find_requesting_ages :
    let store : Store := ⟨[("users", ⟨[
      [("_id", .int32 1), ("age", .int32 30), ("name", .string "a")],
      [("_id", .int32 2), ("age", .int32 20), ("name", .string "b")]], none, []⟩)], 0⟩
    let byAge : Query := { Query.ofSchema "users" .find with
      sorts := [.field (.ofKey (.name "age")) .ascending] }
    let youngest : Query := { byAge with limits := [.count 1] }
    let name : Field := .ofKey (.name "name")
    let age : Field := .ofKey (.name "age")
    (∃ rows requested final final',
      (onStore .standard).find youngest store = (.ok rows, final) ∧
      (onStore .standard).find (youngest.requesting [.raw name, .raw age]) store =
        (.ok requested, final') ∧
      rows.length = 1 ∧ requested.map Document.id? = rows.map Document.id?) ∧
    ∃ rows requested final final',
      (onStore .standard).find byAge store = (.ok rows, final) ∧
      (onStore .standard).find (byAge.requesting [.raw name]) store = (.ok requested, final') ∧
      rows.map Document.id? = [some (.int32 2), some (.int32 1)] ∧
      requested.map Document.id? = [some (.int32 1), some (.int32 2)] ∧
      (requested.map Document.id?).Perm (rows.map Document.id?) := by
  intro store byAge youngest name age
  refine ⟨?_, ?_⟩
  · have hfind : (onStore .standard).find youngest store =
        (.ok [[("_id", .int32 2), ("age", .int32 20), ("name", .string "b")]], store) := by
      unfold youngest byAge store
      rfl
    have hrequested : (onStore .standard).find
        (youngest.requesting ([name, age].map .raw)) store =
          (.ok [[("_id", .int32 2), ("name", .string "b"), ("age", .int32 20)]], store) := by
      unfold youngest byAge store name age
      rfl
    have haliases : ∀ field ∈ [name, age], field.aliasName? = none := by
      simp [name, age, Field.ofKey, Field.aliasName?]
    have hshown : ∀ sort ∈ youngest.sorts, ∀ path, sort.Reads youngest.schema path →
        (youngest.requesting ([name, age].map .raw)).Shows path := by
      intro sort hsort path hpath
      rw [List.mem_singleton.mp hsort] at hpath
      have hage : age ∈ (youngest.requesting ([name, age].map .raw)).rawFields :=
        List.mem_cons_of_mem _ List.mem_cons_self
      exact .inr ⟨path, .inr (.inl ⟨age, hage, rfl, hpath⟩), .inl rfl⟩
    exact ⟨_, _, _, _, hfind, hrequested, rfl,
      (ids_of_find_requesting .standard rfl rfl rfl haliases hfind hrequested).1 hshown⟩
  · have hfind : (onStore .standard).find byAge store =
        (.ok [[("_id", .int32 2), ("age", .int32 20), ("name", .string "b")],
          [("_id", .int32 1), ("age", .int32 30), ("name", .string "a")]], store) := by
      unfold byAge store
      rfl
    have hrequested : (onStore .standard).find (byAge.requesting ([name].map .raw)) store =
        (.ok [[("_id", .int32 1), ("name", .string "a")],
          [("_id", .int32 2), ("name", .string "b")]], store) := by
      unfold byAge store name
      rfl
    have haliases : ∀ field ∈ [name], field.aliasName? = none := by
      simp [name, Field.ofKey, Field.aliasName?]
    exact ⟨_, _, _, _, hfind, hrequested, rfl, rfl,
      (ids_of_find_requesting .standard rfl rfl rfl haliases hfind hrequested).2 rfl rfl⟩

/-! ## Aggregates -/

/-- Requesting fields beside an aggregate of a field leaves its result as it is, if no field is put
    out under an alias above, at or below the aggregate's input, which is no reference to the whole
    row, and no joined documents appear under a name above, at or below the result's.  To count rows
    is to look at no input. -/
theorem aggregateResult_of_find_requesting (config : Config) {query : Query} {source : Field}
    {method : AggregateMethod} {outputs : List Output} {store final final' : Store}
    {rows requested : List Document} (haggregates : query.aggregates = [.field source method])
    (haggregates' : (query.requesting outputs).aggregates = [.field source method])
    (hfields : query.rawFields = []) (hdistinct : query.distinct = false)
    (hsorts : query.sorts = [])
    (hinput : method ≠ .count → ∀ path, source.storagePath query.schema = .ok path →
      path ≠ "$ROOT" ∧ (query.requesting outputs).AliasesBeside path)
    (hjoins : ∀ aliasName, query.Joins aliasName → Path.Apart aliasName aggregateResultName)
    (hfind : (onStore config).find query store = (.ok rows, final))
    (hrequested : (onStore config).find (query.requesting outputs) store =
      (.ok requested, final')) :
    ∃ value, rows.map (·.get? aggregateResultName) = [some value] ∧
      requested.map (·.get? aggregateResultName) = [some value] := by
  obtain ⟨parts, out, ⟨passage⟩, rfl⟩ := passage_of_find hfind
  obtain ⟨parts', out', ⟨passage'⟩, rfl⟩ := passage_of_find hrequested
  obtain ⟨haggregate, hstages⟩ := parts.aggregated_of_single haggregates
  obtain ⟨haggregate', hstages'⟩ := parts'.aggregated_of_single haggregates'
  have hsees := Query.seesAs_requesting hfields hdistinct hsorts haggregate' hinput passage passage'
  have hreduced : passage'.reduced = passage.reduced := by
    have hrun := passage'.reduced_eq
    have hsame : parts'.aggregated = parts.aggregated :=
      Except.ok.inj (hstages'.symm.trans hstages)
    rw [hsame] at hrun
    have hcongr : run store.documents parts.aggregated (query.window passage'.sorted) =
        run store.documents parts.aggregated (query.window passage.sorted) :=
      Aggregate.run_stages_congr hstages hsees
    exact Except.ok.inj (hrun.symm.trans (hcongr.trans passage.reduced_eq))
  have hresult := Aggregate.has_result_of_run hstages passage.reduced_eq
  have hout := Query.readsResult_of_passage hjoins passage
  have hjoins' : ∀ aliasName, (query.requesting outputs).Joins aliasName →
      Path.Apart aliasName aggregateResultName := hjoins
  have hout' := Query.readsResult_of_passage hjoins' passage'
  rw [hreduced] at hout'
  rw [haggregate, haggregate']
  exact ⟨_, Aggregate.get?_normalizeRows _ hresult hout,
    Aggregate.get?_normalizeRows _ hresult hout'⟩

/-- The total of two orders, alone and beside fields of the orders and of their users. -/
theorem aggregateResult_of_find_requesting_total :
    let total : Aggregate := .field (.ofKey (.name "total")) .sum
    let query : Query := { Query.ofSchema "orders" .find with
      outputs := [.aggregate total]
      joins := [.collection "users" (some "user") .inner (.ofKey .id) (.ofKey (.name "by"))] }
    let outputs : List Output := [.raw ((Field.ofKey (.name "status")).aliased "state"),
      .aggregate total, .raw ((Field.ofKey (.name "name")).ownedBy "user")]
    let store : Store := ⟨[("users", ⟨[[("_id", .int32 1), ("name", .string "a")]], none, []⟩),
      ("orders", ⟨[[("_id", .int32 1), ("by", .int32 1), ("total", .int32 30), ("status", .int32 5)],
        [("_id", .int32 2), ("by", .int32 1), ("total", .int32 12)]], none, []⟩)], 0⟩
    ∃ rows requested final final' value,
      (onStore .standard).find query store = (.ok rows, final) ∧
      (onStore .standard).find (query.requesting outputs) store = (.ok requested, final') ∧
      rows.map (·.get? aggregateResultName) = [some value] ∧
      requested.map (·.get? aggregateResultName) = [some value] := by
  intro total query outputs store
  have hsome : ((onStore .standard).find query store).1.toOption.isSome = true := by
    decide +kernel
  have hsome' : ((onStore .standard).find
      (query.requesting outputs) store).1.toOption.isSome = true := by
    decide +kernel
  obtain ⟨rows, final, hfind⟩ := Operation.exists_of_isSome hsome
  obtain ⟨requested, final', hrequested⟩ := Operation.exists_of_isSome hsome'
  have hinput : AggregateMethod.sum ≠ .count → ∀ path,
      (Field.ofKey (.name "total")).storagePath query.schema = .ok path →
      path ≠ "$ROOT" ∧ (query.requesting outputs).AliasesBeside path := by
    intro _ path hpath
    cases hpath
    refine ⟨by decide, ?_⟩
    intro field hfield aliasName haliasName
    rcases List.mem_cons.mp hfield with rfl | hfield
    · cases haliasName
      decide
    · rw [List.mem_singleton.mp hfield] at haliasName
      cases haliasName
  have hjoins : ∀ aliasName, query.Joins aliasName → Path.Apart aliasName aggregateResultName := by
    rintro aliasName ⟨join, hjoin, houtput⟩
    rw [List.mem_singleton.mp hjoin] at houtput
    cases houtput
    decide
  obtain ⟨value, hvalue, hvalue'⟩ := aggregateResult_of_find_requesting .standard rfl rfl rfl rfl
    rfl hinput hjoins hfind hrequested
  exact ⟨rows, requested, final, final', value, hfind, hrequested, hvalue, hvalue'⟩

/-! ## Joined documents -/

/-- In a find without an aggregate and a demand for distinct rows, what is at the output name of a
    requested field behind the projection is there in the returned row, if the removal of joined
    documents keeps this name: each joined alias is apart from it, or a requested field without an
    alias reads from it. -/
theorem outputs_of_find (config : Config) {query : Query} {store final : Store}
    {rows : List Document} (hdistinct : query.distinct = false)
    (haggregates : query.aggregates = [])
    (hfind : (onStore config).find query store = (.ok rows, final)) :
    ∃ front projected sort sorted,
      query.frontStages config.encoder = .ok front ∧
      run store.documents front (store.documents query.schema) = .ok projected ∧
      SortKey.stage query.sorts query.schema = .ok sort ∧
      run store.documents sort.toList projected = .ok sorted ∧ sorted.Perm projected ∧
      List.Forall₂ (fun before row => ∀ field ∈ query.rawFields, ∀ name,
        field.outputName query.schema = .ok name → query.Keeps name →
          Document.ReadsAs name before row) (query.window sorted) rows := by
  obtain ⟨parts, ⟨passage⟩, haggregated⟩ := passage_of_find_rows haggregates hfind
  have hsorted := passage.sorted_eq
  rw [passage.distinct_eq_projected hdistinct] at hsorted
  have hout := Query.readsAs_aliasExclusion parts.exclusion_eq passage.out_eq
  rw [passage.reduced_eq_window haggregated] at hout
  refine ⟨_, passage.projected, _, passage.sorted, parts.front_eq, passage.front_eq, parts.sort_eq,
    hsorted, run_sort parts.sort_eq hsorted, hout.imp ?_⟩
  intro before row hreads field hfield name hname hkeeps
  exact hreads name hkeeps

/-- The titles of a user's posts.  A title is read from the joined post, which stays for it, and the
    user's name is put out apart from the post. -/
theorem outputs_of_find_titles :
    let query : Query := { Query.ofSchema "users" .find with
      outputs := [.raw ((Field.ofKey (.name "title")).ownedBy "posts"),
        .raw ((Field.ofKey (.name "name")).aliased "author")]
      joins := [.collection "posts" none .inner (.ofKey (.name "by")) (.ofKey .id)] }
    let store : Store := ⟨[("users", ⟨[[("_id", .int32 1), ("name", .string "a")]], none, []⟩),
      ("posts", ⟨[[("_id", .int32 7), ("by", .int32 1), ("title", .string "x")],
        [("_id", .int32 8), ("by", .int32 1), ("title", .string "y")]], none, []⟩)], 0⟩
    let rows : List Document := [
      [("_id", .int32 1), ("posts", .document [("title", .string "x")]), ("author", .string "a")],
      [("_id", .int32 1), ("posts", .document [("title", .string "y")]), ("author", .string "a")]]
    (onStore .standard).find query store = (.ok rows, store) ∧
      query.Keeps "posts.title" ∧ query.Keeps "author" ∧
      ∃ front projected sort sorted,
        query.frontStages Config.standard.encoder = .ok front ∧
        run store.documents front (store.documents query.schema) = .ok projected ∧
        SortKey.stage query.sorts query.schema = .ok sort ∧
        run store.documents sort.toList projected = .ok sorted ∧ sorted.Perm projected ∧
        List.Forall₂ (fun before row => ∀ field ∈ query.rawFields, ∀ name,
          field.outputName query.schema = .ok name → query.Keeps name →
            Document.ReadsAs name before row) (query.window sorted) rows := by
  intro query store rows
  have hfind : (onStore .standard).find query store = (.ok rows, store) := by
    unfold query store rows
    rfl
  have hjoined : ∀ aliasName, query.Joins aliasName → aliasName = "posts" := by
    rintro aliasName ⟨join, hjoin, houtput⟩
    rw [List.mem_singleton.mp hjoin] at houtput
    cases houtput
    rfl
  have htitle : query.Keeps "posts.title" := by
    refine Query.keeps_of_unaliased List.mem_cons_self rfl rfl rfl ?_
    intro aliasName hjoins
    rw [hjoined aliasName hjoins]
    decide
  have hauthor : query.Keeps "author" := by
    intro aliasName hjoins
    rw [hjoined aliasName hjoins]
    exact .inl (by decide)
  exact ⟨hfind, htitle, hauthor, outputs_of_find .standard rfl rfl hfind⟩

end Executor

end DocQuery
