import DocQuery.Proofs.Run
import DocQuery.Compile.Command

/-!
# The parts of a compiled pipeline

A pipeline that compiles is the stages of its parts in their fixed order.  `Query.Parts` names the
parts and what each of them is compiled from; proofs about pipelines start from it.
-/

namespace DocQuery

namespace Query

/-- The stage that projects to the requested fields, if there are any. -/
def projectedStages (query : Query) (aggregate : Option Aggregate) : Compiled (List Document) :=
  if query.rawFields.isEmpty then .ok [] else do return [← query.projection aggregate]

/-- The stages that keep distinct rows, if they are asked for. -/
def requestedDistinctStages (query : Query) : Compiled (List Document) :=
  if query.distinct then query.distinctStages else .ok []

/-- The stages of the aggregate, if there is one and it is asked for. -/
def aggregatedStages (query : Query) (withAggregate : Bool) (aggregate : Option Aggregate) :
    Compiled (List Document) :=
  match withAggregate, aggregate with
  | true, some aggregate => aggregate.stages query.schema
  | _, _ => .ok []

/-- The parts that a pipeline is compiled from. -/
structure Parts (query : Query) (encoder : Encoder) (withAggregate : Bool) where
  joins : List (List Document)
  predicate : Option Document
  aggregate : Option Aggregate
  projected : List Document
  distinct : List Document
  sort : Option Document
  offsets : List Document
  limits : List Document
  aggregated : List Document
  exclusion : Option Document
  joins_eq : query.joins.mapM (·.stages query.schema) = .ok joins
  predicate_eq : query.predicate encoder = .ok predicate
  aggregate_eq : query.aggregate? = .ok aggregate
  projected_eq : query.projectedStages aggregate = .ok projected
  distinct_eq : query.requestedDistinctStages = .ok distinct
  sort_eq : SortKey.stage query.sorts query.schema = .ok sort
  offsets_eq : query.offsets.mapM RowCount.offsetStage = .ok offsets
  limits_eq : query.limits.mapM RowCount.limitStage = .ok limits
  aggregated_eq : query.aggregatedStages withAggregate aggregate = .ok aggregated
  exclusion_eq : query.aliasExclusion = .ok exclusion

/-- The stages of the parts in order. -/
def Parts.stages {query : Query} {encoder : Encoder} {withAggregate : Bool}
    (parts : query.Parts encoder withAggregate) : List Document :=
  parts.joins.flatten ++ (parts.predicate.map Stage.keep).toList ++ parts.projected ++
    parts.distinct ++ parts.sort.toList ++ parts.offsets ++ parts.limits ++ parts.aggregated ++
    parts.exclusion.toList

/-- The stages that find the rows of a query: its joins and its filters. -/
def foundStages (query : Query) (encoder : Encoder) : Compiled (List Document) := do
  let joins ← query.joins.mapM (·.stages query.schema)
  let predicate ← query.predicate encoder
  return joins.flatten ++ (predicate.map Stage.keep).toList

/-- The stages up to the projection to the requested fields. -/
def frontStages (query : Query) (encoder : Encoder) : Compiled (List Document) := do
  let found ← query.foundStages encoder
  let aggregate ← query.aggregate?
  let projected ← query.projectedStages aggregate
  return found ++ projected

/-- The stages of the parts that find rows. -/
def Parts.found {query : Query} {encoder : Encoder} {withAggregate : Bool}
    (parts : query.Parts encoder withAggregate) : List Document :=
  parts.joins.flatten ++ (parts.predicate.map Stage.keep).toList

theorem Parts.found_eq {query : Query} {encoder : Encoder} {withAggregate : Bool}
    (parts : query.Parts encoder withAggregate) : query.foundStages encoder = .ok parts.found := by
  rw [foundStages, parts.joins_eq, parts.predicate_eq]
  rfl

theorem Parts.front_eq {query : Query} {encoder : Encoder} {withAggregate : Bool}
    (parts : query.Parts encoder withAggregate) :
    query.frontStages encoder = .ok (parts.found ++ parts.projected) := by
  rw [frontStages, parts.found_eq, parts.aggregate_eq]
  show (query.projectedStages parts.aggregate >>= fun projected =>
    pure (parts.found ++ projected)) = _
  rw [parts.projected_eq]
  rfl

/-- The pipeline as one sequence of its parts. -/
theorem stages_eq (query : Query) (encoder : Encoder) (withAggregate : Bool) :
    query.stages encoder withAggregate = (do
      let joins ← query.joins.mapM (·.stages query.schema)
      let predicate ← query.predicate encoder
      let aggregate ← query.aggregate?
      let projected ← query.projectedStages aggregate
      let distinct ← query.requestedDistinctStages
      let sort ← SortKey.stage query.sorts query.schema
      let offsets ← query.offsets.mapM RowCount.offsetStage
      let limits ← query.limits.mapM RowCount.limitStage
      let aggregated ← query.aggregatedStages withAggregate aggregate
      let exclusion ← query.aliasExclusion
      return joins.flatten ++ (predicate.map Stage.keep).toList ++ projected ++ distinct ++
        sort.toList ++ offsets ++ limits ++ aggregated ++ exclusion.toList) := by
  unfold stages projectedStages requestedDistinctStages aggregatedStages
  refine bind_congr fun joins => bind_congr fun predicate => bind_congr fun aggregate => ?_
  cases query.projection aggregate <;> cases query.rawFields.isEmpty <;>
    cases query.distinct <;> cases withAggregate <;> cases aggregate <;> rfl

/-- A pipeline that compiles has parts, and its stages are theirs. -/
theorem parts_of_stages {query : Query} {encoder : Encoder} {withAggregate : Bool}
    {pipeline : List Document} (h : query.stages encoder withAggregate = .ok pipeline) :
    ∃ parts : query.Parts encoder withAggregate, pipeline = parts.stages := by
  rw [stages_eq] at h
  obtain ⟨joins, hjoins, h⟩ := bind_eq_ok.mp h
  obtain ⟨predicate, hpredicate, h⟩ := bind_eq_ok.mp h
  obtain ⟨aggregate, haggregate, h⟩ := bind_eq_ok.mp h
  obtain ⟨projected, hprojected, h⟩ := bind_eq_ok.mp h
  obtain ⟨distinct, hdistinct, h⟩ := bind_eq_ok.mp h
  obtain ⟨sort, hsort, h⟩ := bind_eq_ok.mp h
  obtain ⟨offsets, hoffsets, h⟩ := bind_eq_ok.mp h
  obtain ⟨limits, hlimits, h⟩ := bind_eq_ok.mp h
  obtain ⟨aggregated, haggregated, h⟩ := bind_eq_ok.mp h
  obtain ⟨exclusion, hexclusion, h⟩ := bind_eq_ok.mp h
  exact ⟨⟨joins, predicate, aggregate, projected, distinct, sort, offsets, limits, aggregated,
    exclusion, hjoins, hpredicate, haggregate, hprojected, hdistinct, hsort, hoffsets, hlimits,
    haggregated, hexclusion⟩, (pure_eq_ok.mp h).symm⟩

/-- The stages of parts are what the pipeline compiles to. -/
theorem Parts.stages_eq_ok {query : Query} {encoder : Encoder} {withAggregate : Bool}
    (parts : query.Parts encoder withAggregate) :
    query.stages encoder withAggregate = .ok parts.stages := by
  rw [stages_eq, parts.joins_eq, parts.predicate_eq, parts.aggregate_eq]
  simp only [bind, Except.bind, parts.projected_eq, parts.distinct_eq, parts.sort_eq,
    parts.offsets_eq, parts.limits_eq, parts.aggregated_eq, parts.exclusion_eq]
  rfl

/-- The pipeline of a query without joins and outputs of its own filters, sorts and takes a
    window. -/
theorem stages_of_plain {query : Query} {encoder : Encoder} {withAggregate : Bool}
    {pipeline : List Document} (houtputs : query.outputs = []) (hdistinct : query.distinct = false)
    (hjoins : query.joins = []) (h : query.stages encoder withAggregate = .ok pipeline) :
    ∃ predicate sort offsets limits, query.predicate encoder = .ok predicate ∧
      SortKey.stage query.sorts query.schema = .ok sort ∧
      query.offsets.mapM RowCount.offsetStage = .ok offsets ∧
      query.limits.mapM RowCount.limitStage = .ok limits ∧
      pipeline = (predicate.map Stage.keep).toList ++ sort.toList ++ offsets ++ limits := by
  obtain ⟨⟨joins, predicate, aggregate, projected, distinct, sort, offsets, limits, aggregated,
    exclusion, hjoined, hpredicate, haggregate, hprojected, hdistincts, hsort, hoffsets, hlimits,
    haggregated, hexclusion⟩, rfl⟩ := parts_of_stages h
  rw [aliasExclusion, hjoins] at hexclusion
  rw [hjoins] at hjoined
  rw [aggregate?, aggregates, houtputs] at haggregate
  rw [projectedStages, rawFields, houtputs] at hprojected
  rw [requestedDistinctStages, hdistinct] at hdistincts
  cases hexclusion
  cases hjoined
  cases haggregate
  cases hprojected
  cases hdistincts
  refine ⟨predicate, sort, offsets, limits, hpredicate, hsort, hoffsets, hlimits, ?_⟩
  cases withAggregate <;> cases haggregated <;> simp [Parts.stages]

end Query

end DocQuery
