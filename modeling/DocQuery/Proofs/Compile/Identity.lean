import DocQuery.Proofs.Compile.Exclusion
import DocQuery.Proofs.Compile.Pipeline
import DocQuery.Proofs.Compile.Projection
import DocQuery.Proofs.Compile.Rows
import DocQuery.Proofs.Compile.Sort
import DocQuery.Proofs.Engine.Identity

/-!
# Identities through compiled pipelines

A query whose joins and requested outputs write apart from the identity compiles to stages that hand
out identities of rows that they took in, and not more rows than each of its limits allows.
-/

namespace DocQuery

open Pipeline

variable {source : String → List Document} {main : String}

/-! ## Joins -/

/-- Whether a join leaves identities as they are: a built-in one writes its alias apart from them,
    and one of its own stages hands out only those that came in. -/
def Join.LeavesIds (source : String → List Document) : Join → Prop
  | .collection schema aliasName _ _ _ => Path.Apart (aliasName.getD schema) idName
  | .custom node => ∀ stages, node.stages .customJoinStage .customJoin = .ok stages →
      PreservesIds source stages

theorem Join.preservesIds_of_stages {join : Join} {stages : List Document}
    (h : join.LeavesIds source) (hstages : join.stages main = .ok stages) :
    PreservesIds source stages := by
  cases join with
  | custom node => exact h stages hstages
  | collection schema aliasName method foreign localField =>
    rw [Join.stages] at hstages
    obtain ⟨unwinding, hunwinding, hstages⟩ := bind_eq_ok.mp hstages
    obtain ⟨localPath, -, hstages⟩ := bind_eq_ok.mp hstages
    obtain ⟨foreignPath, -, hstages⟩ := bind_eq_ok.mp hstages
    cases hstages
    refine PreservesIds.append (preservesIds_lookup h schema localPath foreignPath) ?_
    cases method with
    | left =>
      cases hunwinding
      exact .nil
    | inner =>
      cases hunwinding
      exact preservesIds_unwind h false
    | outer =>
      cases hunwinding
      exact preservesIds_unwind h true
    | custom token => cases hunwinding

theorem Join.preservesIds_flatten {joins : List Join} {stages : List (List Document)}
    (h : ∀ join ∈ joins, join.LeavesIds source)
    (hstages : joins.mapM (·.stages main) = .ok stages) : PreservesIds source stages.flatten := by
  refine .flatten fun part hpart => ?_
  obtain ⟨join, hjoin, hcompiled⟩ := exists_of_mem_mapM hstages hpart
  exact preservesIds_of_stages (h join hjoin) hcompiled

/-! ## Requested outputs -/

namespace Query

/-- Whether requested outputs are not put out under the identity's name or below it. -/
def OutputsLeaveIds (query : Query) : Prop :=
  ∀ field ∈ query.rawFields, ∀ aliasName, field.aliasName? = some aliasName →
    Path.Apart aliasName idName

theorem preservesIds_projectedStages {query : Query} {aggregate : Option Aggregate}
    {stages : List Document} (houtputs : query.OutputsLeaveIds)
    (h : query.projectedStages aggregate = .ok stages) : PreservesIds source stages := by
  refine .of_map_eq fun rows out hrun => Document.map_id?_of_readsAs ?_
  refine (readsAs_projectedStages h hrun).imp ?_
  intro row projected hreads
  exact hreads idName (.inl rfl) houtputs

theorem preservesIds_distinctStages {query : Query} {stages : List Document}
    (h : query.requestedDistinctStages = .ok stages) : PreservesIds source stages := by
  unfold requestedDistinctStages at h
  split at h
  · obtain ⟨id, -, h⟩ := bind_eq_ok.mp h
    cases h
    exact .of_subset fun rows out hrun => subset_of_distinct hrun
  · cases h
    exact .nil

/-- The removal of unread aliases hands out the rows' identities in order. -/
theorem map_id?_of_aliasExclusion {query : Query} {exclusion : Option Document}
    {rows out : List Document} (hjoins : ∀ join ∈ query.joins, join.LeavesIds source)
    (h : query.aliasExclusion = .ok exclusion)
    (hrun : run source exclusion.toList rows = .ok out) :
    out.map Document.id? = rows.map Document.id? := by
  refine Document.map_id?_of_readsAs ((readsAs_aliasExclusion h hrun).imp ?_)
  intro row left hreads
  refine hreads idName ?_
  rintro aliasName ⟨join, hjoin, houtput⟩
  cases join with
  | collection schema name method foreign localField =>
    cases houtput
    exact .inl (hjoins _ hjoin)
  | custom node => cases houtput

/-! ## Pipelines -/

/-- The pipeline of a write hands out identities that came in, and not more rows than each limit of
    its query allows. -/
theorem ids_of_stages {query : Query} {encoder : Encoder} {pipeline rows out : List Document}
    (hjoins : ∀ join ∈ query.joins, join.LeavesIds source) (houtputs : query.OutputsLeaveIds)
    (h : query.stages encoder false = .ok pipeline) (hrun : run source pipeline rows = .ok out) :
    out.map Document.id? ⊆ rows.map Document.id? ∧
      ∀ limit ∈ query.limits, out.length ≤ limit.rows := by
  obtain ⟨parts, rfl⟩ := parts_of_stages h
  obtain ⟨passage⟩ := parts.passage_of_run hrun
  have haggregated : parts.aggregated = [] := (Except.ok.inj parts.aggregated_eq).symm
  have hfiltered : PreservesIds source (parts.predicate.map Stage.keep).toList :=
    .of_subset fun rows out hkept => (run_keep hkept).2 ▸ List.filter_subset_self _
  have hfound := (Join.preservesIds_flatten hjoins parts.joins_eq).append hfiltered rows _
    passage.found_eq
  have hprojected := preservesIds_projectedStages houtputs parts.projected_eq _ _
    passage.projected_eq
  have hdistinct := preservesIds_distinctStages parts.distinct_eq _ _ passage.distinct_eq
  have hsorted : passage.sorted.map Document.id? ⊆ passage.distinct.map Document.id? :=
    List.map_subset _ (run_sort parts.sort_eq passage.sorted_eq).subset
  -- What comes behind the window keeps each row's identity.
  have hids := map_id?_of_aliasExclusion hjoins parts.exclusion_eq passage.out_eq
  rw [passage.reduced_eq_window haggregated] at hids
  refine ⟨?_, fun limit hlimit => ?_⟩
  · rw [hids]
    have hwindow : query.window passage.sorted ⊆ passage.sorted :=
      List.Subset.trans (keepAtMost_subset _ _) (List.drop_subset _ _)
    intro id hid
    exact hfound (hprojected (hdistinct (hsorted (List.map_subset _ hwindow hid))))
  · rw [← List.length_map Document.id?, hids, List.length_map]
    exact length_keepAtMost_le hlimit _

end Query

end DocQuery
