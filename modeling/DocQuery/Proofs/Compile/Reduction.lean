import DocQuery.Proofs.Compile.Aggregate
import DocQuery.Proofs.Compile.Satisfaction

/-!
# What aggregates compute

An aggregate other than a count puts all rows into one group.  Its accumulator is given the values at
the path of the aggregate's field, row by row and null where there is none, and what it makes of them
is the result.  Without rows there is no group.
-/

namespace DocQuery

open Pipeline

namespace Pipeline

variable {field : GroupField} {groups next : List Group} {row : Document} {rows : List Document}
  {values : List Value}

/-- The group of rows under no key of their own that have one computed value each. -/
def oneGroup : List Value → List Group
  | [] => []
  | value :: rest => [⟨.null, (value :: rest).map ([·])⟩]

theorem addRow_oneGroup (values : List Value) (value : Value) :
    addRow .null [value] (oneGroup values) = oneGroup (values ++ [value]) := by
  cases values with
  | nil => rfl
  | cons first rest =>
    rw [oneGroup, addRow, if_pos (Value.equal_self .null), List.cons_append, oneGroup]
    simp

theorem groupRow_null (h : groupRow .null [field] groups row = .ok next) :
    ∃ value, Expression.eval row field.expression = .ok value ∧
      next = addRow .null [value] groups := by
  obtain ⟨key, hkey, h⟩ := bind_eq_ok.mp h
  obtain ⟨-, -, h⟩ := bind_eq_ok.mp h
  obtain ⟨values, hvalues, h⟩ := bind_eq_ok.mp h
  cases hkey
  rw [mapM_eq_ok] at hvalues
  cases hvalues with
  | cons hvalue hnone =>
    cases hnone
    exact ⟨_, hvalue, (pure_eq_ok.mp h).symm⟩

/-- Rows under no key of their own form one group of the values that they have. -/
theorem oneGroup_of_rows (h : rows.foldlM (groupRow .null [field]) [] = .ok groups) :
    ∃ values,
      List.Forall₂ (fun row value => Expression.eval row field.expression = .ok value) rows values ∧
      groups = oneGroup values := by
  induction rows using List.reverseRecOn generalizing groups with
  | nil =>
    cases h
    exact ⟨[], .nil, rfl⟩
  | append_singleton rows row ih =>
    rw [List.foldlM_append] at h
    obtain ⟨before, hbefore, h⟩ := bind_eq_ok.mp h
    obtain ⟨next, hnext, h⟩ := bind_eq_ok.mp h
    cases h
    obtain ⟨values, hvalues, rfl⟩ := ih hbefore
    obtain ⟨value, hvalue, rfl⟩ := groupRow_null hnext
    exact ⟨values ++ [value], List.rel_append hvalues (.cons hvalue .nil),
      addRow_oneGroup values value⟩

/-- The row of this group, which shows under a name what an accumulator makes of the values. -/
def oneGroupRows (name : String) (accumulator : Accumulator) : List Value → List Document
  | [] => []
  | value :: rest => [[(idName, .null), (name, accumulator.result (value :: rest))]]

theorem rows_of_oneGroup {accumulator : Accumulator} {reduced : List Document}
    (hop : Accumulator.ofOperator field.op = .ok accumulator)
    (h : (oneGroup values).mapM (Group.row [field]) = .ok reduced) :
    reduced = oneGroupRows field.name accumulator values := by
  cases values with
  | nil =>
    cases h
    rfl
  | cons value rest =>
    have hcolumn : Group.column ⟨.null, (value :: rest).map ([·])⟩ 0 = value :: rest := by
      rw [Group.column, List.map_map]
      exact List.map_id _
    have hrow : Group.row [field] ⟨.null, (value :: rest).map ([·])⟩ =
        .ok [(idName, .null), (field.name, accumulator.result (value :: rest))] := by
      rw [Group.row, Group.results, hop, hcolumn]
      rfl
    rw [oneGroup, List.mapM_cons, hrow] at h
    cases h
    rfl

end Pipeline

namespace Aggregate

variable {source : String → List Document} {main op path : String} {field : Field}
  {method : AggregateMethod} {accumulator : Accumulator} {rows stages reduced : List Document}

theorem stages_of_accumulator (hop : method.accumulator = .ok op)
    (hpath : field.storagePath main = .ok path) :
    (Aggregate.field field method).stages main = .ok [Stage.group
      [(idName, .null), (aggregateResultName, .document [(op, .string ("$" ++ path))])]] := by
  have hreference : field.reference main = .ok ("$" ++ path) := by
    rw [Field.reference, hpath]
    rfl
  rw [Aggregate.stages]
  · rw [hop, hreference]
    rfl
  · rintro rfl
    cases hop

/-- The rows that an aggregate of a field reduces rows to. -/
theorem reduced_of_run (hop : method.accumulator = .ok op)
    (haccumulator : Accumulator.ofOperator op = .ok accumulator)
    (hpath : field.storagePath main = .ok path) (hroot : path ≠ "$ROOT")
    (hstages : (Aggregate.field field method).stages main = .ok stages)
    (hrun : run source stages rows = .ok reduced) :
    reduced = oneGroupRows aggregateResultName accumulator (rows.map (·.valueAt path)) := by
  rw [stages_of_accumulator hop hpath] at hstages
  cases hstages
  rw [run_singleton, runStage_group] at hrun
  have hrun : (rows.foldlM (groupRow .null
      [⟨aggregateResultName, op, .string ("$" ++ path)⟩]) [] >>= fun groups =>
        groups.mapM (Group.row [⟨aggregateResultName, op, .string ("$" ++ path)⟩])) =
      .ok reduced := hrun
  obtain ⟨groups, hgroups, hrows⟩ := bind_eq_ok.mp hrun
  obtain ⟨values, hvalues, rfl⟩ := oneGroup_of_rows hgroups
  -- The run has succeeded, so every reference was read, and it is no variable.
  have hread : rows.map (·.valueAt path) = values := by
    rw [← List.forall₂_eq_eq_eq, List.forall₂_map_left_iff]
    refine hvalues.imp fun row value hvalue => ?_
    exact (Expression.answers_reference hroot row value hvalue).symm
  rw [hread]
  exact rows_of_oneGroup haccumulator hrows

end Aggregate

end DocQuery
