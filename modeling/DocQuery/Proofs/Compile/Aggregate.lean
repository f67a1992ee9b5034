import DocQuery.Proofs.Engine.Agreement
import DocQuery.Proofs.Engine.Grouping

/-!
# What aggregates see

A count sees how many rows there are; any other aggregate of a field sees what is at its path.  Rows
that are alike in this are reduced to the same row.
-/

namespace DocQuery

namespace Aggregate

open Pipeline

variable {source : String → List Document} {main : String} {field : Field}
  {method : AggregateMethod} {rows others stages : List Document}

/-- Whether an aggregate of a field has the same input in two rows. -/
def SeesAs (main : String) (field : Field) (method : AggregateMethod) (row other : Document) :
    Prop :=
  method ≠ .count → ∀ path, field.storagePath main = .ok path →
    EvaluatesAs (.string ("$" ++ path)) row other

/-- An aggregate is a count, or the accumulator of its method on the reference to its field. -/
theorem stages_eq_ok (h : (Aggregate.field field method).stages main = .ok stages) :
    method = .count ∧ stages = [[("$count", .string aggregateResultName)]] ∨
      method ≠ .count ∧ ∃ op path, field.storagePath main = .ok path ∧ stages = [Stage.group
        [(idName, .null), (aggregateResultName, .document [(op, .string ("$" ++ path))])]] := by
  by_cases hcount : method = .count
  · subst hcount
    cases h
    exact .inl ⟨rfl, rfl⟩
  · right
    refine ⟨hcount, ?_⟩
    rw [Aggregate.stages] at h
    · obtain ⟨op, -, h⟩ := bind_eq_ok.mp h
      obtain ⟨reference, hreference, h⟩ := bind_eq_ok.mp h
      obtain ⟨path, hpath, hreference⟩ := bind_eq_ok.mp hreference
      cases hreference
      cases h
      exact ⟨op, path, hpath, rfl⟩
    · exact hcount

/-- Rows with the same inputs are reduced alike. -/
theorem run_stages_congr (hstages : (Aggregate.field field method).stages main = .ok stages)
    (h : List.Forall₂ (SeesAs main field method) rows others) :
    run source stages others = run source stages rows := by
  rcases stages_eq_ok hstages with ⟨-, rfl⟩ | ⟨hcount, op, path, hpath, rfl⟩
  · rw [run_singleton, run_singleton, runStage_count, runStage_count, countRows_congr h.length_eq]
  · rw [run_singleton, run_singleton, runStage_group, runStage_group]
    have hid : Document.id? [(idName, .null),
        (aggregateResultName, .document [(op, .string ("$" ++ path))])] = some .null := rfl
    refine groupRows_congr hid rfl (h.imp ?_)
    intro row other hsees
    refine ⟨rfl, fun field hfield => ?_⟩
    rw [List.mem_singleton.mp hfield]
    exact hsees hcount path hpath

/-- An aggregate reduces rows to one row with its result, if there are any. -/
theorem has_result_of_run {reduced : List Document}
    (hstages : (Aggregate.field field method).stages main = .ok stages)
    (hrun : run source stages rows = .ok reduced) :
    reduced = [] ∨ ∃ row, reduced = [row] ∧ row.has aggregateResultName = true := by
  rcases stages_eq_ok hstages with ⟨-, rfl⟩ | ⟨-, op, path, -, rfl⟩
  · rw [run_singleton, runStage_count, countRows, if_neg (by decide)] at hrun
    split at hrun
    · cases hrun
      exact .inl rfl
    · cases hrun
      exact .inr ⟨_, rfl, rfl⟩
  · rw [run_singleton, runStage_group] at hrun
    have hrun : (rows.foldlM (groupRow .null
        [⟨aggregateResultName, op, .string ("$" ++ path)⟩]) [] >>= fun groups =>
          groups.mapM (Group.row [⟨aggregateResultName, op, .string ("$" ++ path)⟩])) =
        .ok reduced := hrun
    obtain ⟨groups, hgroups, hrows⟩ := bind_eq_ok.mp hrun
    rw [mapM_eq_ok] at hrows
    rcases oneGroup_of_foldlM hgroups with rfl | ⟨values, rfl⟩
    · cases hrows
      exact .inl rfl
    · cases hrows with
      | @cons _ row _ _ hrow hrest =>
        cases hrest
        refine .inr ⟨row, rfl, ?_⟩
        obtain ⟨results, hresults, hrow⟩ := bind_eq_ok.mp hrow
        obtain ⟨accumulator, -, hresults⟩ := bind_eq_ok.mp hresults
        cases hresults
        cases hrow
        rfl

/-- The result that reduced rows carry, where no rows stand for the empty result. -/
def result (aggregate : Aggregate) : List Document → Value
  | [] => (aggregate.emptyRow.get? aggregateResultName).getD .null
  | row :: _ => (row.get? aggregateResultName).getD .null

theorem get?_emptyRow (aggregate : Aggregate) :
    aggregate.emptyRow.get? aggregateResultName = some (aggregate.result []) := by
  cases aggregate with
  | custom node => rfl
  | field field method => cases method <;> rfl

/-- The rows of an aggregate are one row with the result, if the reduced rows keep theirs. -/
theorem get?_normalizeRows (aggregate : Aggregate) {reduced out : List Document}
    (hreduced : reduced = [] ∨ ∃ row, reduced = [row] ∧ row.has aggregateResultName = true)
    (hout : List.Forall₂ (Document.ReadsAs aggregateResultName) reduced out) :
    (aggregate.normalizeRows out).map (·.get? aggregateResultName) =
      [some (aggregate.result reduced)] := by
  rcases hreduced with rfl | ⟨row, rfl, hrow⟩
  · cases hout
    rw [normalizeRows, List.isEmpty_nil, if_pos rfl, List.map_singleton, get?_emptyRow]
  · cases hout with
    | @cons _ left _ _ hleft hrest =>
      cases hrest
      have hdot : '.' ∉ aggregateResultName.toList := by decide
      rw [Document.ReadsAs, Document.getPath?_of_no_dot hdot, Document.getPath?_of_no_dot hdot] at hleft
      obtain ⟨value, hvalue⟩ := Option.isSome_iff_exists.mp hrow
      show [left.get? aggregateResultName] = [some ((row.get? aggregateResultName).getD .null)]
      rw [hleft, hvalue, Option.getD_some]

end Aggregate

end DocQuery
