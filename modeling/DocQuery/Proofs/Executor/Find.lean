import DocQuery.Proofs.Compile.Pipeline
import DocQuery.Proofs.Compile.Satisfaction
import DocQuery.Proofs.Compile.Sort
import DocQuery.Proofs.Compile.Window
import DocQuery.Proofs.Executor.Basic

/-!
# The rows of a find

A find without joins and outputs of its own is a filter, a sort and a window: the documents that
meet the filters, in stored order, are sorted stably by the sort keys, and the window is taken of
the result.
-/

namespace DocQuery

namespace Executor

open Pipeline

/-- A find that succeeds, of a query without joins and outputs of its own whose sort keys have paths
    of their own, returns the window of the query on the documents that meet its filters, sorted
    stably by the keys, the first difference deciding. -/
theorem rows_of_find (config : Config) {query : Query} {store final : Store}
    {rows : List Document} {keys : List SortPath} (hjoins : query.joins = [])
    (houtputs : query.outputs = []) (hdistinct : query.distinct = false)
    (hfilters : (Filter.group query.filters query.relation).IsComparison query.schema)
    (hsorts : List.Forall₂ (SortKey.SortsBy query.schema) query.sorts keys)
    (hpaths : (keys.map SortPath.path).Nodup)
    (horderable : ∀ doc ∈ store.documents query.schema, OrderableAt keys doc)
    (hfind : (onStore config).find query store = (.ok rows, final)) :
    ∃ sorted,
      StablySorted (orderRows keys)
        ((store.documents query.schema).filter (query.isMet config.encoder)) sorted ∧
      rows = query.window sorted := by
  obtain ⟨-, pipeline, aggregate, found, hpipeline, haggregate, hrun, hrows⟩ := find_eq_ok hfind
  rw [Query.aggregate?, Query.aggregates, houtputs] at haggregate
  cases haggregate
  obtain ⟨predicate, sort, offsets, limits, hpredicate, hsort, hoffsets, hlimits, rfl⟩ :=
    Query.stages_of_plain houtputs hdistinct hjoins hpipeline
  rw [run_append, run_append, run_append] at hrun
  obtain ⟨behind, hbehind, hlimited⟩ := bind_eq_ok.mp hrun
  obtain ⟨sorted, hsorted, hskipped⟩ := bind_eq_ok.mp hbehind
  obtain ⟨kept, hkept, hsorted⟩ := bind_eq_ok.mp hsorted
  rw [run_offsetStages hoffsets] at hskipped
  cases hskipped
  rw [run_limitStages hlimits] at hlimited
  cases hlimited
  obtain ⟨hanswered, rfl⟩ := run_keep hkept
  have hmet : (store.documents query.schema).filter (fun doc => doc.isMatch (predicate.getD [])) =
      (store.documents query.schema).filter (query.isMet config.encoder) := by
    refine List.filter_congr fun doc hdoc => ?_
    obtain ⟨holds, hholds⟩ := hanswered doc hdoc
    rw [Document.isMatch_of_satisfies hholds]
    exact Query.answers_predicate hfilters hpredicate doc holds hholds
  rw [hmet] at hsorted
  refine ⟨sorted, SortKey.stablySorted_of_run hsorts hpaths ?_ hsort hsorted, hrows⟩
  intro doc hdoc
  exact horderable doc (List.mem_of_mem_filter hdoc)

/-- Names that stand for something else are why the names of the fields are asked for: two built-in
    comparisons that a document does not meet, under which a find returns it. -/
theorem rows_of_find_reserved :
    let store : Store := ⟨[("users", ⟨[[("_id", .int32 1)]], none, []⟩)], 0⟩
    let among : Filter := .value (.ofKey (.name "$expr")) .isIn
      (.array [.bind (.value (.int32 1)), .array [.bind (.value (.int32 1))]])
    let below : Filter := .fields .id .lt (.ofKey (.name "$ROOT"))
    ∀ filter ∈ [among, below],
      let query : Query := { Query.ofSchema "users" .find with filters := [filter] }
      (onStore .standard).find query store = (.ok [[("_id", .int32 1)]], store) ∧
        ¬∃ sorted,
          StablySorted (orderRows [])
            ((store.documents query.schema).filter (query.isMet Config.standard.encoder)) sorted ∧
          [[("_id", .int32 1)]] = query.window sorted := by
  intro store among below filter hfilter query
  have hnone :
      (store.documents query.schema).filter (query.isMet Config.standard.encoder) = [] := by
    rcases List.mem_cons.mp hfilter with rfl | hfilter
    · rfl
    · rw [List.mem_singleton] at hfilter
      subst hfilter
      rfl
  refine ⟨?_, ?_⟩
  · rcases List.mem_cons.mp hfilter with rfl | hfilter
    · rfl
    · rw [List.mem_singleton] at hfilter
      subst hfilter
      rfl
  · rintro ⟨sorted, hsorted, hwindow⟩
    rw [hnone] at hsorted
    rw [hsorted.perm.eq_nil] at hwindow
    cases hwindow

/-- Of four users three are of age; they are sorted by age, the youngest is passed over, and one of
    the others is returned. -/
theorem rows_of_find_adults :
    let query : Query := { Query.ofSchema "users" .find with
      filters := [.value (.ofKey (.name "age")) .gte (.bind (.value (.int32 18)))]
      sorts := [.field (.ofKey (.name "age")) .ascending, .field .id .descending]
      offsets := [.count 1], limits := [.count 5, .count 1] }
    let store : Store := ⟨[("users", ⟨[[("_id", .int32 1), ("age", .int32 30)],
      [("_id", .int32 2), ("age", .int32 12)], [("_id", .int32 3), ("age", .int32 20)],
      [("_id", .int32 4), ("age", .int32 30)]], none, []⟩)], 0⟩
    (onStore .standard).find query store =
        (.ok [[("_id", .int32 4), ("age", .int32 30)]], store) ∧
      ∃ sorted,
        StablySorted (orderRows [⟨"age", false⟩, ⟨"_id", true⟩])
          [[("_id", .int32 1), ("age", .int32 30)], [("_id", .int32 3), ("age", .int32 20)],
            [("_id", .int32 4), ("age", .int32 30)]] sorted ∧
        [[("_id", .int32 4), ("age", .int32 30)]] = query.window sorted := by
  intro query store
  have hfind : (onStore .standard).find query store =
      (.ok [[("_id", .int32 4), ("age", .int32 30)]], store) := by
    rfl
  have hsorts : List.Forall₂ (SortKey.SortsBy query.schema) query.sorts
      [⟨"age", false⟩, ⟨"_id", true⟩] :=
    .cons ⟨_, rfl, rfl⟩ (.cons ⟨_, rfl, rfl⟩ .nil)
  have hfilters : (Filter.group query.filters query.relation).IsComparison query.schema :=
    ⟨.inl rfl, ⟨rfl, fun heq => absurd (Except.ok.inj heq) (by decide)⟩, trivial⟩
  have horderable : ∀ doc ∈ store.documents query.schema,
      OrderableAt [⟨"age", false⟩, ⟨"_id", true⟩] doc := by
    unfold OrderableAt
    decide
  exact ⟨hfind, rows_of_find .standard rfl rfl rfl hfilters hsorts (by decide) horderable hfind⟩

end Executor

end DocQuery
