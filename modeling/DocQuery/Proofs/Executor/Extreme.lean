import DocQuery.Proofs.Compile.Reduction
import DocQuery.Proofs.Engine.Extreme
import DocQuery.Proofs.Executor.Requested

/-!
# Least and greatest values of a find

A find that asks for the least or the greatest value of a field reduces the rows that it would return
without the aggregate.  It returns one row, with the first of the stated values that none is strictly
better than, or with null if no value is stated.
-/

namespace DocQuery

open Pipeline
open Pipeline.Accumulator (isExtreme stated extreme extreme_cases)

/-! ## Methods -/

namespace AggregateMethod

variable {method : AggregateMethod} {wanted : Ordering}

/-- The order that a better value has to the best one so far, for a method that looks for extremes. -/
def wanted? : AggregateMethod → Option Ordering
  | .minimum => some .lt
  | .maximum => some .gt
  | _ => none

theorem wanted_ne_eq (h : method.wanted? = some wanted) : wanted ≠ .eq := by
  cases method <;> cases h <;> decide

theorem exists_accumulator (h : method.wanted? = some wanted) :
    ∃ op accumulator, method.accumulator = .ok op ∧
      Accumulator.ofOperator op = .ok accumulator ∧
      ∀ values, accumulator.result values = extreme wanted values := by
  cases method with
  | minimum =>
    cases h
    exact ⟨"$min", .minimum, rfl, rfl, fun _ => rfl⟩
  | maximum =>
    cases h
    exact ⟨"$max", .maximum, rfl, rfl, fun _ => rfl⟩
  | _ => cases h

end AggregateMethod

/-- An extreme is shown in one row; null is the one over no rows. -/
theorem Aggregate.normalizeRows_extreme {method : AggregateMethod} {wanted : Ordering}
    {accumulator : Accumulator} (hmethod : method.wanted? = some wanted)
    (hresult : ∀ values, accumulator.result values = extreme wanted values) (field : Field)
    (values : List Value) :
    ∃ row, (Aggregate.field field method).normalizeRows
        (oneGroupRows aggregateResultName accumulator values) = [row] ∧
      row.get? aggregateResultName = some (extreme wanted values) := by
  cases values with
  | nil =>
    cases method with
    | minimum => exact ⟨_, rfl, rfl⟩
    | maximum => exact ⟨_, rfl, rfl⟩
    | _ => cases hmethod
  | cons value rest => exact ⟨_, rfl, congrArg some (hresult _)⟩

/-! ## Rows to reduce -/

namespace Query

variable {query : Query} {encoder : Encoder} {source : String → List Document}
  {rows out : List Document}

theorem rawFields_requesting_nil (h : query.rawFields = []) :
    (query.requesting []).rawFields = query.rawFields := h.symm

/-- The parts of a query that requests an aggregate only, without it. -/
def Parts.unreduced (parts : query.Parts encoder true) (hfields : query.rawFields = []) :
    (query.requesting []).Parts encoder true where
  joins := parts.joins
  predicate := parts.predicate
  aggregate := none
  projected := parts.projected
  distinct := parts.distinct
  sort := parts.sort
  offsets := parts.offsets
  limits := parts.limits
  aggregated := []
  exclusion := parts.exclusion
  joins_eq := parts.joins_eq
  predicate_eq := parts.predicate_eq
  aggregate_eq := rfl
  projected_eq := by
    rw [← parts.projected_eq, projectedStages, projectedStages, hfields]
    rfl
  distinct_eq := (requestedDistinctStages_requesting (rawFields_requesting_nil hfields)).trans
    parts.distinct_eq
  sort_eq := parts.sort_eq
  offsets_eq := parts.offsets_eq
  limits_eq := parts.limits_eq
  aggregated_eq := rfl
  exclusion_eq := (aliasExclusion_requesting (rawFields_requesting_nil hfields)).trans
    parts.exclusion_eq

/-- Without joins, the rows that come to the aggregate are the rows of the query without it. -/
theorem Parts.Passage.unreduced {parts : query.Parts encoder true}
    (passage : parts.Passage source rows out) (hfields : query.rawFields = [])
    (hjoins : query.joins = []) :
    Nonempty ((parts.unreduced hfields).Passage source rows (query.window passage.sorted)) := by
  have hout : run source parts.exclusion.toList (query.window passage.sorted) =
      .ok (query.window passage.sorted) := by
    rw [parts.exclusion_of_no_joins hjoins]
    rfl
  exact ⟨⟨passage.found, passage.projected, passage.distinct, passage.sorted, _,
    passage.found_eq, passage.projected_eq, passage.distinct_eq, passage.sorted_eq, rfl, hout⟩⟩

end Query

namespace Executor

/-- A find without requested fields and joins whose only aggregate is the least or the greatest value
    of a field returns one row.  Where the values of the field are orderable in the rows that the find
    without the aggregate returns, its result is the first of the stated values that none of them is
    strictly better than, or null if none is stated. -/
theorem extreme_of_find (config : Config) {query : Query} {source : Field}
    {method : AggregateMethod} {wanted : Ordering} {path : String} {store final : Store}
    {rows : List Document} (hfields : query.rawFields = [])
    (haggregates : query.aggregates = [.field source method])
    (hmethod : method.wanted? = some wanted) (hjoins : query.joins = [])
    (hpath : source.storagePath query.schema = .ok path) (hroot : path ≠ "$ROOT")
    (hfind : (onStore config).find query store = (.ok rows, final)) :
    ∃ inputs, (onStore config).find (query.requesting []) store = (.ok inputs, store) ∧
      ((∀ row ∈ inputs, (row.valueAt path).isOrderable = true) →
        ∃ row result, rows = [row] ∧ row.get? aggregateResultName = some result ∧
          (stated (inputs.map (·.valueAt path)) = [] → result = .null) ∧
          (stated (inputs.map (·.valueAt path)) ≠ [] →
            (stated (inputs.map (·.valueAt path))).find?
              (isExtreme wanted (stated (inputs.map (·.valueAt path)))) = some result)) := by
  have haction : (query.requesting []).action = .find := (find_eq_ok hfind).1
  obtain ⟨parts, out, ⟨passage⟩, hrows⟩ := passage_of_find hfind
  obtain ⟨haggregate, hstages⟩ := parts.aggregated_of_single haggregates
  obtain ⟨passage'⟩ := passage.unreduced hfields hjoins
  refine ⟨query.window passage.sorted, find_of_passage config haction passage', ?_⟩
  intro horderable
  obtain ⟨op, accumulator, hop, haccumulator, hresult⟩ :=
    AggregateMethod.exists_accumulator hmethod
  have hreduced := Aggregate.reduced_of_run hop haccumulator hpath hroot hstages passage.reduced_eq
  obtain ⟨row, hrow, hget⟩ := Aggregate.normalizeRows_extreme hmethod hresult source
    ((query.window passage.sorted).map (·.valueAt path))
  have hvalues : ∀ v ∈ (query.window passage.sorted).map (·.valueAt path),
      v.isOrderable = true := by
    intro v hv
    obtain ⟨input, hinput, rfl⟩ := List.mem_map.mp hv
    exact horderable input hinput
  refine ⟨row, _, ?_, hget, extreme_cases (AggregateMethod.wanted_ne_eq hmethod) hvalues⟩
  rw [hrows, haggregate, passage.out_eq_reduced hjoins, hreduced]
  exact hrow

/-- Of four users one shows no age, and the least age is shown in two widths; the first one counts. -/
theorem extreme_of_find_ages :
    let query : Query := { Query.ofSchema "users" .find with
      outputs := [.aggregate (.field (.ofKey (.name "age")) .minimum)] }
    let store : Store := ⟨[("users", ⟨[[("_id", .int32 1), ("age", .int32 30)],
      [("_id", .int32 2)], [("_id", .int32 3), ("age", .int64 20)],
      [("_id", .int32 4), ("age", .int32 20)]], none, []⟩)], 0⟩
    ∃ row, (onStore .standard).find query store = (.ok [row], store) ∧
      row.get? aggregateResultName = some (.int64 20) := by
  intro query store
  have hpath : (Field.ofKey (.name "age")).storagePath "users" = .ok "age" := rfl
  have hfind : (onStore .standard).find query store =
      (.ok [[(idName, .null), (aggregateResultName, .int64 20)]], store) := rfl
  have hdocs : (onStore .standard).find (query.requesting []) store =
      (.ok (store.documents "users"), store) := rfl
  obtain ⟨inputs, hinputs, hextreme⟩ :=
    extreme_of_find .standard rfl rfl rfl rfl hpath (by decide) hfind
  cases hinputs.symm.trans hdocs
  obtain ⟨row, result, hrows, hresult, -, hfirst⟩ := hextreme (by decide)
  have hleast := hfirst (by decide)
  cases hleast
  exact ⟨row, hfind.trans (by rw [hrows]), hresult⟩

/-- The name of a whole document is why the name of the field is asked for: no value is stored at it,
    but the least value of such a field is a document. -/
theorem extreme_of_find_reserved :
    let query : Query := { Query.ofSchema "users" .find with
      outputs := [.aggregate (.field (.ofKey (.name "$ROOT")) .minimum)] }
    let store : Store := ⟨[("users", ⟨[[("_id", .int32 1)]], none, []⟩)], 0⟩
    (onStore .standard).find (query.requesting []) store = (.ok [[("_id", .int32 1)]], store) ∧
      (Document.valueAt [("_id", .int32 1)] "$ROOT").isOrderable = true ∧
      stated [Document.valueAt [("_id", .int32 1)] "$ROOT"] = [] ∧
      (onStore .standard).find query store =
        (.ok [[(idName, .null), (aggregateResultName, .document [("_id", .int32 1)])]], store) := by
  intro query store
  exact ⟨rfl, rfl, rfl, rfl⟩

end Executor

end DocQuery
