import DocQuery.Proofs.Compile.Pipeline
import DocQuery.Proofs.Compile.Window

/-!
# The rows between the parts of a pipeline

A run of a query's pipeline runs its parts one behind the other.  The offsets and limits between the
sort and the aggregate take the window of the query.
-/

namespace DocQuery

namespace Query

open Pipeline

/-- The rows behind each part of a pipeline in a run from rows to others. -/
structure Parts.Passage {query : Query} {encoder : Encoder} {withAggregate : Bool}
    (parts : query.Parts encoder withAggregate) (source : String → List Document)
    (rows out : List Document) where
  found : List Document
  projected : List Document
  distinct : List Document
  sorted : List Document
  reduced : List Document
  found_eq : run source parts.found rows = .ok found
  projected_eq : run source parts.projected found = .ok projected
  distinct_eq : run source parts.distinct projected = .ok distinct
  sorted_eq : run source parts.sort.toList distinct = .ok sorted
  reduced_eq : run source parts.aggregated (query.window sorted) = .ok reduced
  out_eq : run source parts.exclusion.toList reduced = .ok out

/-- A run of a pipeline passes through its parts. -/
theorem Parts.passage_of_run {query : Query} {encoder : Encoder} {withAggregate : Bool}
    (parts : query.Parts encoder withAggregate) {source : String → List Document}
    {rows out : List Document} (h : run source parts.stages rows = .ok out) :
    Nonempty (parts.Passage source rows out) := by
  simp only [stages, run_append] at h
  obtain ⟨reduced, h, hout⟩ := bind_eq_ok.mp h
  obtain ⟨limited, h, hreduced⟩ := bind_eq_ok.mp h
  obtain ⟨behind, h, hlimited⟩ := bind_eq_ok.mp h
  obtain ⟨sorted, h, hbehind⟩ := bind_eq_ok.mp h
  obtain ⟨distinct, h, hsorted⟩ := bind_eq_ok.mp h
  obtain ⟨projected, h, hdistinct⟩ := bind_eq_ok.mp h
  obtain ⟨found, hfound, hprojected⟩ := bind_eq_ok.mp h
  rw [run_offsetStages parts.offsets_eq] at hbehind
  cases hbehind
  rw [run_limitStages parts.limits_eq] at hlimited
  cases hlimited
  rw [← run_append] at hfound
  exact ⟨⟨found, projected, distinct, sorted, reduced, hfound, hprojected, hdistinct, hsorted,
    hreduced, hout⟩⟩

/-- The only aggregate of a query is the one whose stages reduce its rows. -/
theorem Parts.aggregated_of_single {query : Query} {encoder : Encoder} {aggregate : Aggregate}
    (parts : query.Parts encoder true) (h : query.aggregates = [aggregate]) :
    parts.aggregate = some aggregate ∧ aggregate.stages query.schema = .ok parts.aggregated := by
  have haggregate := parts.aggregate_eq
  rw [aggregate?, h] at haggregate
  have hsome : parts.aggregate = some aggregate := (Except.ok.inj haggregate).symm
  have hstages := parts.aggregated_eq
  rw [hsome] at hstages
  exact ⟨hsome, hstages⟩

/-- Without an aggregate no stages reduce the rows. -/
theorem Parts.aggregated_of_none {query : Query} {encoder : Encoder}
    (parts : query.Parts encoder true) (h : query.aggregates = []) :
    parts.aggregate = none ∧ parts.aggregated = [] := by
  have haggregate := parts.aggregate_eq
  rw [aggregate?, h] at haggregate
  have hnone : parts.aggregate = none := (Except.ok.inj haggregate).symm
  have hstages := parts.aggregated_eq
  rw [hnone] at hstages
  exact ⟨hnone, (Except.ok.inj hstages).symm⟩

/-- Without joins no stage removes joined documents. -/
theorem Parts.exclusion_of_no_joins {query : Query} {encoder : Encoder} {withAggregate : Bool}
    (parts : query.Parts encoder withAggregate) (h : query.joins = []) :
    parts.exclusion.toList = [] := by
  have hexclusion := parts.exclusion_eq
  rw [aliasExclusion, h] at hexclusion
  rw [← Except.ok.inj hexclusion]
  rfl

theorem window_eq_self {query : Query} (hoffsets : query.offsets = []) (hlimits : query.limits = [])
    (rows : List Document) : query.window rows = rows := by
  rw [window, hoffsets, hlimits]
  rfl

namespace Parts.Passage

variable {query : Query} {encoder : Encoder} {withAggregate : Bool}
  {parts : query.Parts encoder withAggregate} {source : String → List Document}
  {rows out : List Document} (passage : parts.Passage source rows out)

include passage

theorem front_eq : run source (parts.found ++ parts.projected) rows = .ok passage.projected := by
  rw [run_append, passage.found_eq]
  exact passage.projected_eq

/-- Rows that pass through the parts run through the pipeline. -/
theorem run_eq : run source parts.stages rows = .ok out := by
  have hdistinct := (run_append_of_ok passage.front_eq _).trans passage.distinct_eq
  have hsorted := (run_append_of_ok hdistinct _).trans passage.sorted_eq
  have hbehind := (run_append_of_ok hsorted _).trans (run_offsetStages parts.offsets_eq _)
  have hlimited := (run_append_of_ok hbehind _).trans (run_limitStages parts.limits_eq _)
  have hreduced := (run_append_of_ok hlimited _).trans passage.reduced_eq
  exact (run_append_of_ok hreduced _).trans passage.out_eq

/-- Without requested fields all rows that are found go on. -/
theorem projected_eq_found (h : query.rawFields = []) : passage.projected = passage.found := by
  have hstages := parts.projected_eq
  rw [projectedStages, h] at hstages
  exact eq_of_run_nil (Except.ok.inj hstages).symm passage.projected_eq

/-- Without a demand for distinct rows all projected rows go on. -/
theorem distinct_eq_projected (h : query.distinct = false) :
    passage.distinct = passage.projected := by
  have hstages := parts.distinct_eq
  rw [requestedDistinctStages, h] at hstages
  exact eq_of_run_nil (Except.ok.inj hstages).symm passage.distinct_eq

/-- Without sort keys the rows keep their order. -/
theorem sorted_eq_distinct (h : query.sorts = []) : passage.sorted = passage.distinct := by
  have hsort := parts.sort_eq
  rw [SortKey.stage, h] at hsort
  have hstages : parts.sort.toList = [] := by
    rw [← Except.ok.inj hsort]
    rfl
  exact eq_of_run_nil hstages passage.sorted_eq

/-- Without an aggregate the rows of the window go on. -/
theorem reduced_eq_window (h : parts.aggregated = []) :
    passage.reduced = query.window passage.sorted :=
  eq_of_run_nil h passage.reduced_eq

/-- Without joins nothing is removed from the rows. -/
theorem out_eq_reduced (h : query.joins = []) : out = passage.reduced :=
  eq_of_run_nil (parts.exclusion_of_no_joins h) passage.out_eq

end Parts.Passage

end Query

end DocQuery
