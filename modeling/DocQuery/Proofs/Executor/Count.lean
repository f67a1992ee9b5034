import DocQuery.Proofs.Executor.Requested

/-!
# Counting what a find returns

A find that also asks for the count of its rows compiles to the same stages but for the count, which
stands behind the window and in front of the removal of joined documents.  The removal takes no rows
away and does not reach the count, so the count is the number of the rows that the find returns.
-/

namespace DocQuery

open Pipeline

namespace Aggregate

/-- The count of the rows of a query. -/
def countOfRows : Aggregate := .field .id .count

/-- The count that a number of rows is shown as: itself, as far as a count can hold it. -/
def shownCount (rows : Nat) : Int32 := Int32.ofInt (min rows (Nat.pow 2 31 - 1) : Nat)

theorem toInt_shownCount (rows : Nat) : (shownCount rows).toInt = min rows 2147483647 := by
  have hlow : -2 ^ 31 ≤ ((min rows 2147483647 : Nat) : Int) := by omega
  have hhigh : ((min rows 2147483647 : Nat) : Int) < 2 ^ 31 := by omega
  have hexact : (Int32.ofInt (min rows 2147483647 : Nat)).toInt = (min rows 2147483647 : Nat) :=
    Int32.toInt_ofInt_of_le hlow hhigh
  refine Eq.trans hexact ?_
  omega

/-- The row that shows a count. -/
def countRow (rows : Nat) : Document := [(aggregateResultName, .int32 (shownCount rows))]

/-- What a count reduces a number of rows to: the row that shows it, or no row where it is zero. -/
def counted (rows : Nat) : List Document := if rows = 0 then [] else [countRow rows]

theorem run_counted (source : String → List Document) (rows : List Document) :
    run source [[("$count", .string aggregateResultName)]] rows = .ok (counted rows.length) := by
  rw [run_singleton, runStage_count, Pipeline.countRows, if_neg (by decide)]
  cases rows with
  | nil => rfl
  | cons row rest => rfl

/-- Where no rows stand for the count zero, there is one row with the count. -/
theorem normalizeRows_counted (rows : Nat) :
    countOfRows.normalizeRows (counted rows) = [countRow rows] := by
  by_cases hrows : rows = 0
  · subst hrows
    rfl
  · rw [counted, if_neg hrows]
    rfl

end Aggregate

/-- Erasing paths other than that of the result leaves a count as it is. -/
theorem Document.erasePaths_countRow {paths : List String}
    (h : ∀ path ∈ paths, path ≠ aggregateResultName) (rows : Nat) :
    (Aggregate.countRow rows).erasePaths paths = Aggregate.countRow rows := by
  induction paths with
  | nil => rfl
  | cons path rest ih =>
    obtain ⟨hpath, hrest⟩ := List.forall_mem_cons.mp h
    have hkept : (Aggregate.countRow rows).erasePath path = Aggregate.countRow rows :=
      erasePath_single hpath rfl
    show ((Aggregate.countRow rows).erasePath path).erasePaths rest = _
    rw [hkept]
    exact ih hrest

theorem Aggregate.map_erasePaths_counted {paths : List String}
    (h : ∀ path ∈ paths, path ≠ aggregateResultName) (rows : Nat) :
    (counted rows).map (·.erasePaths paths) = counted rows := by
  unfold counted
  split
  · rfl
  · rw [List.map_singleton, Document.erasePaths_countRow h]

namespace Query

/-- A query that asks for the count of its rows too. -/
def counting (query : Query) : Query :=
  query.requesting (query.outputs ++ [.aggregate .countOfRows])

variable {query : Query} {encoder : Encoder} {source : String → List Document}
  {rows out : List Document}

theorem rawFields_counting (query : Query) : query.counting.rawFields = query.rawFields := by
  simp [counting, requesting, rawFields]

theorem aggregates_counting (h : query.aggregates = []) :
    query.counting.aggregates = [.countOfRows] := by
  unfold aggregates at h ⊢
  simp [counting, requesting, h]

/-- A projection has the identity, which is the input of a count. -/
theorem projection_counting (query : Query) :
    query.counting.projection (some .countOfRows) = query.projection none := by
  have hspec : ∀ spec, query.rawFields.foldlM (projectField query.schema) [(idName, .int32 1)] =
      .ok spec → spec.has idName = true := fun spec h => (foldlM_projectField h).2.1
  unfold projection
  rw [rawFields_counting]
  show (query.rawFields.foldlM (projectField query.schema) _ >>= _) =
    (query.rawFields.foldlM (projectField query.schema) _ >>= _)
  cases hfold : query.rawFields.foldlM (projectField query.schema) [(idName, .int32 1)] with
  | error error => rfl
  | ok spec =>
    show Except.ok (Stage.project (if Document.has spec idName then spec else _)) = _
    rw [if_pos (hspec spec hfold)]
    rfl

theorem projectedStages_counting (query : Query) :
    query.counting.projectedStages (some .countOfRows) = query.projectedStages none := by
  unfold projectedStages
  rw [rawFields_counting, projection_counting]

/-- The parts of a query that counts its rows: those of the query, and the count. -/
def Parts.counting (parts : query.Parts encoder true) (h : query.aggregates = []) :
    query.counting.Parts encoder true where
  joins := parts.joins
  predicate := parts.predicate
  aggregate := some .countOfRows
  projected := parts.projected
  distinct := parts.distinct
  sort := parts.sort
  offsets := parts.offsets
  limits := parts.limits
  aggregated := [[("$count", .string aggregateResultName)]]
  exclusion := parts.exclusion
  joins_eq := parts.joins_eq
  predicate_eq := parts.predicate_eq
  aggregate_eq := by rw [aggregate?, aggregates_counting h]
  projected_eq := by
    rw [projectedStages_counting, ← parts.projected_eq, (parts.aggregated_of_none h).1]
  distinct_eq :=
    (requestedDistinctStages_requesting query.rawFields_counting).trans parts.distinct_eq
  sort_eq := parts.sort_eq
  offsets_eq := parts.offsets_eq
  limits_eq := parts.limits_eq
  aggregated_eq := rfl
  exclusion_eq := (aliasExclusion_requesting query.rawFields_counting).trans parts.exclusion_eq

/-- The rows behind each part of a query that counts its rows: those of the query up to the window, and
    the count of the rows that come out. -/
theorem Parts.Passage.counting {parts : query.Parts encoder true}
    (passage : parts.Passage source rows out) (h : query.aggregates = [])
    (hjoins : ¬query.Joins aggregateResultName) :
    Nonempty ((parts.counting h).Passage source rows (Aggregate.counted out.length)) := by
  have haggregated := (parts.aggregated_of_none h).2
  obtain ⟨removed, hremoved, hruns⟩ := aliasExclusion_eq_ok parts.exclusion_eq
  have hapart : ∀ path ∈ removed, path ≠ aggregateResultName := by
    rintro path hpath rfl
    exact hjoins (hremoved _ hpath).1
  -- The removal changes rows, but not how many there are.
  have hlength : out.length = (query.window passage.sorted).length := by
    have hleft := (hruns source passage.reduced).symm.trans passage.out_eq
    calc out.length
        = (passage.reduced.map (·.erasePaths removed)).length :=
          congrArg List.length (Except.ok.inj hleft).symm
      _ = passage.reduced.length := List.length_map _
      _ = (query.window passage.sorted).length :=
          congrArg List.length (passage.reduced_eq_window haggregated)
  have hout : run source parts.exclusion.toList (Aggregate.counted out.length) =
      .ok (Aggregate.counted out.length) := by
    rw [hruns, Aggregate.map_erasePaths_counted hapart]
  have hcounted : run source [[("$count", .string aggregateResultName)]]
      (query.window passage.sorted) = .ok (Aggregate.counted out.length) := by
    rw [Aggregate.run_counted, hlength]
  exact ⟨⟨passage.found, passage.projected, passage.distinct, passage.sorted, _,
    passage.found_eq, passage.projected_eq, passage.distinct_eq, passage.sorted_eq, hcounted,
    hout⟩⟩

end Query

namespace Executor

/-- A find that returns rows succeeds, too, when it asks for the count of its rows beside its requested
    fields, if no joined documents appear under the name of the result.  It returns one row, which
    shows how many rows there are, as far as the count can hold it. -/
theorem count_of_find (config : Config) {query : Query} {store final : Store}
    {rows : List Document} (haggregates : query.aggregates = [])
    (hjoins : ∀ join ∈ query.joins, join.outputAlias? ≠ some aggregateResultName)
    (hfind : (onStore config).find query store = (.ok rows, final)) :
    ∃ count : Int32, count.toInt = min rows.length 2147483647 ∧
      (onStore config).find query.counting store =
        (.ok [[(aggregateResultName, .int32 count)]], store) := by
  have hnone : ¬query.Joins aggregateResultName := by
    rintro ⟨join, hjoin, halias⟩
    exact hjoins join hjoin halias
  have haction : query.counting.action = .find := (find_eq_ok hfind).1
  obtain ⟨parts, ⟨passage⟩, -⟩ := passage_of_find_rows haggregates hfind
  obtain ⟨passage'⟩ := passage.counting haggregates hnone
  have hcounted := find_of_passage config haction passage'
  have hrow : (Aggregate.countOfRows.normalizeRows (Aggregate.counted rows.length)) =
      [Aggregate.countRow rows.length] := Aggregate.normalizeRows_counted rows.length
  refine ⟨Aggregate.shownCount rows.length, Aggregate.toInt_shownCount _, ?_⟩
  exact hcounted.trans (congrArg (fun shown => (Except.ok shown, store)) hrow)

/-- The names of three users, of which two are alike, beside their teams, which are removed again; and
    the names of the users of a team that has none. -/
theorem count_of_find_names :
    let names : Query := { Query.ofSchema "users" .find with
      outputs := [.raw (.ofKey (.name "name"))]
      distinct := true
      joins := [.collection "teams" none .left .id (.ofKey (.name "team"))] }
    let nobody : Query := { names with
      filters := [.value (.ofKey (.name "team")) .eq (.bind (.value (.int32 7)))] }
    let store : Store := ⟨[("teams", ⟨[[("_id", .int32 5)]], none, []⟩),
      ("users", ⟨[[("_id", .int32 1), ("name", .string "a"), ("team", .int32 5)],
        [("_id", .int32 2), ("name", .string "b")],
        [("_id", .int32 3), ("name", .string "a")]], none, []⟩)], 0⟩
    (∃ rows count final, (onStore .standard).find names store = (.ok rows, final) ∧
      rows.length = 2 ∧ Int32.toInt count = 2 ∧ (onStore .standard).find names.counting store =
        (.ok [[(aggregateResultName, .int32 count)]], store)) ∧
    ∃ count final, (onStore .standard).find nobody store = (.ok [], final) ∧
      Int32.toInt count = 0 ∧ (onStore .standard).find nobody.counting store =
        (.ok [[(aggregateResultName, .int32 count)]], store) := by
  intro names nobody store
  have hjoins : ∀ join ∈ names.joins, join.outputAlias? ≠ some aggregateResultName := by
    intro join hjoin
    rw [List.mem_singleton.mp hjoin]
    decide
  have hjoins' : ∀ join ∈ nobody.joins, join.outputAlias? ≠ some aggregateResultName := hjoins
  have hlength : ((onStore .standard).find names store).1.toOption.map List.length = some 2 := by
    decide +kernel
  have hnone : ((onStore .standard).find nobody store).1.toOption.map List.length = some 0 := by
    decide +kernel
  refine ⟨?_, ?_⟩
  · rcases hfind : (onStore .standard).find names store with ⟨failure | rows, final⟩
    · rw [hfind] at hlength
      cases hlength
    · rw [hfind] at hlength
      have hrows : rows.length = 2 := Option.some.inj hlength
      obtain ⟨count, hcount, hcounted⟩ := count_of_find .standard rfl hjoins hfind
      rw [hrows] at hcount
      exact ⟨rows, count, final, rfl, hrows, hcount, hcounted⟩
  · rcases hfind : (onStore .standard).find nobody store with ⟨failure | rows, final⟩
    · rw [hfind] at hnone
      cases hnone
    · rw [hfind] at hnone
      obtain rfl := List.length_eq_zero_iff.mp (Option.some.inj hnone)
      obtain ⟨count, hcount, hcounted⟩ := count_of_find .standard rfl hjoins' hfind
      exact ⟨count, final, rfl, hcount, hcounted⟩

end Executor

end DocQuery
