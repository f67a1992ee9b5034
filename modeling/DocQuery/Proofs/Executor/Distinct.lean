import DocQuery.Proofs.Compile.Distinct
import DocQuery.Proofs.Executor.Basic

/-!
# The rows of a distinct find

A find that asks for distinct rows hands out, of the rows that its requested fields are projected
to, the first of each group of rows that agree at the outputs.
-/

namespace DocQuery

namespace Executor

open Pipeline

/-- A distinct find that succeeds, of a query with requested fields and without sorts, a window and an
    aggregate, finds the first projected row of each group of rows with equal values at the output
    names; only then joined documents are removed from the rows.  No output name is an operator. -/
theorem distinct_rows_of_find (config : Config) {query : Query} {store final : Store}
    {rows : List Document} (hdistinct : query.distinct = true) (hfields : query.rawFields ≠ [])
    (haggregates : query.aggregates = []) (hsorts : query.sorts = [])
    (hoffsets : query.offsets = []) (hlimits : query.limits = [])
    (hoperators : ∀ field ∈ query.rawFields, ∀ name, field.outputName query.schema = .ok name →
      isOperator name = false)
    (hfind : (onStore config).find query store = (.ok rows, final)) :
    ∃ front projected names stages distinct exclusion,
      query.frontStages config.encoder = .ok front ∧
      run store.documents front (store.documents query.schema) = .ok projected ∧
      query.outputNames = .ok names ∧
      query.distinctStages = .ok stages ∧ run store.documents stages projected = .ok distinct ∧
      LeadGroups (Document.agreeAt names) projected distinct ∧
      query.aliasExclusion = .ok exclusion ∧
      run store.documents exclusion.toList distinct = .ok rows := by
  obtain ⟨parts, ⟨passage⟩, haggregated⟩ := passage_of_find_rows haggregates hfind
  have hstages : query.distinctStages = .ok parts.distinct := by
    have heq := parts.distinct_eq
    rwa [Query.requestedDistinctStages, if_pos hdistinct] at heq
  obtain ⟨names, hnames, -⟩ := Query.distinctStages_eq_ok hfields hstages
  have hoperators : ∀ name ∈ names, isOperator name = false := by
    intro name hname
    obtain ⟨field, hfield, hstep⟩ := exists_of_mem_mapM hnames hname
    exact hoperators field hfield name hstep
  have hleaders := Query.run_distinctStages hfields hoperators hnames hstages passage.distinct_eq
  -- Nothing comes between the distinct rows and the removal of joined documents.
  have hreduced : passage.reduced = passage.distinct := by
    rw [passage.reduced_eq_window haggregated, Query.window_eq_self hoffsets hlimits,
      passage.sorted_eq_distinct hsorts]
  have hgroups : LeadGroups (Document.agreeAt names) passage.projected passage.distinct := by
    rw [hleaders]
    exact leadGroups_leaders (Document.agreeAt_self names) passage.projected
  exact ⟨_, _, names, _, _, _, parts.front_eq, passage.front_eq, hnames, hstages,
    passage.distinct_eq, hgroups, parts.exclusion_eq, hreduced ▸ passage.out_eq⟩

/-- Four users with their teams, by the values that are put out as `n`.  The double of the second user
    is not a number; it equals every number, so he is in the group of the first one. -/
theorem distinct_rows_of_find_numbers :
    let query : Query := { Query.ofSchema "users" .find with
      outputs := [.raw ((Field.ofKey (.name "x")).aliased "n")], distinct := true
      joins := [.collection "teams" none .left (.ofKey .id) (.ofKey (.name "x"))] }
    let store : Store := ⟨[("teams", ⟨[[("_id", .int32 1)]], none, []⟩),
      ("users", ⟨[[("_id", .int32 1), ("x", .int32 1)], [("_id", .int32 2), ("x", .double .nan)],
        [("_id", .int32 3), ("x", .int32 2)], [("_id", .int32 4)]], none, []⟩)], 0⟩
    let rows : List Document := [[("_id", .int32 1), ("n", .int32 1)],
      [("_id", .int32 3), ("n", .int32 2)], [("_id", .int32 4), ("n", .null)]]
    (onStore .standard).find query store = (.ok rows, store) ∧
      ∃ front projected names stages distinct exclusion,
        query.frontStages Config.standard.encoder = .ok front ∧
        run store.documents front (store.documents query.schema) = .ok projected ∧
        query.outputNames = .ok names ∧
        query.distinctStages = .ok stages ∧ run store.documents stages projected = .ok distinct ∧
        LeadGroups (Document.agreeAt names) projected distinct ∧
        query.aliasExclusion = .ok exclusion ∧
        run store.documents exclusion.toList distinct = .ok rows := by
  intro query store rows
  have hfind : (onStore .standard).find query store = (.ok rows, store) := by
    unfold query store rows
    rfl
  have hoperators : ∀ field ∈ query.rawFields, ∀ name,
      field.outputName query.schema = .ok name → isOperator name = false := by
    intro field hfield name hname
    rw [List.mem_singleton.mp hfield] at hname
    cases hname
    decide
  exact ⟨hfind, distinct_rows_of_find .standard rfl (List.cons_ne_nil _ _) rfl rfl rfl rfl
    hoperators hfind⟩

end Executor

end DocQuery
