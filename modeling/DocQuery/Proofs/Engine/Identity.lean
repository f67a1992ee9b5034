import DocQuery.Compile.Pipeline
import DocQuery.Proofs.Document.Path
import DocQuery.Proofs.Engine.Grouping
import DocQuery.Proofs.Engine.Pipeline

/-!
# Identities through stages

Stages that write apart from the identity hand out rows whose identities came in with their rows:
filters, sorts and windows hand out some of their rows, look-ups and unwindings write an alias,
projections write other fields, and distinct groups hand out their first rows.
-/

namespace DocQuery

namespace Document

theorem id?_setPath_of_apart (doc : Document) {path : String} (h : Path.Apart path idName)
    (value : Value) : (doc.setPath path value).id? = doc.id? := by
  rw [← getPath?_idName, getPath?_setPath_of_apart doc h, getPath?_idName]

theorem id?_erasePath_of_apart (doc : Document) {path : String} (h : Path.Apart path idName) :
    (doc.erasePath path).id? = doc.id? := by
  rw [← getPath?_idName, getPath?_erasePath_of_apart doc h, getPath?_idName]

end Document

namespace Pipeline

variable {source : String → List Document}

/-- Whether all rows that stages hand out have identities that came in with a row. -/
def PreservesIds (source : String → List Document) (stages : List Document) : Prop :=
  ∀ rows out, run source stages rows = .ok out → out.map Document.id? ⊆ rows.map Document.id?

namespace PreservesIds

theorem nil : PreservesIds source [] := by
  rintro rows out ⟨⟩
  exact List.Subset.refl _

theorem append {stages others : List Document} (h : PreservesIds source stages)
    (hothers : PreservesIds source others) : PreservesIds source (stages ++ others) := by
  intro rows out hrun
  rw [run_append] at hrun
  obtain ⟨between, hbetween, hout⟩ := bind_eq_ok.mp hrun
  exact List.Subset.trans (hothers between out hout) (h rows between hbetween)

theorem flatten {parts : List (List Document)} (h : ∀ stages ∈ parts, PreservesIds source stages) :
    PreservesIds source parts.flatten := by
  induction parts with
  | nil => exact nil
  | cons stages rest ih =>
    obtain ⟨hfirst, hrest⟩ := List.forall_mem_cons.mp h
    exact hfirst.append (ih hrest)

/-- Rows that are some of those that came in have their identities. -/
theorem of_subset {stages : List Document}
    (h : ∀ rows out, run source stages rows = .ok out → out ⊆ rows) : PreservesIds source stages :=
  fun rows out hrun => List.map_subset _ (h rows out hrun)

theorem of_map_eq {stages : List Document}
    (h : ∀ rows out, run source stages rows = .ok out →
      out.map Document.id? = rows.map Document.id?) : PreservesIds source stages :=
  fun rows out hrun => h rows out hrun ▸ List.Subset.refl _

end PreservesIds

/-! ## Joining -/

theorem preservesIds_lookup {aliasName : String} (h : Path.Apart aliasName idName)
    (collection localPath foreignPath : String) :
    PreservesIds source [Stage.lookup collection localPath foreignPath aliasName] := by
  refine .of_map_eq fun rows out hrun => ?_
  rw [run_singleton, runStage_lookup] at hrun
  cases hrun
  rw [lookupRows, List.map_map]
  exact List.map_congr_left fun row _ => row.id?_setPath_of_apart h _

/-- The rows of one row have its identity. -/
theorem id?_of_mem_unwindRow {aliasName : String} (h : Path.Apart aliasName idName)
    {preserve : Bool} {row out : Document} (hout : out ∈ unwindRow aliasName preserve row) :
    out.id? = row.id? := by
  unfold unwindRow at hout
  split at hout
  · split at hout
    · rw [List.mem_singleton.mp hout]
      exact row.id?_erasePath_of_apart h
    · cases hout
  · obtain ⟨item, -, rfl⟩ := List.mem_map.mp hout
    exact row.id?_setPath_of_apart h item
  · split at hout
    · rw [List.mem_singleton.mp hout]
    · cases hout
  · split at hout
    · rw [List.mem_singleton.mp hout]
    · cases hout
  · rw [List.mem_singleton.mp hout]

theorem preservesIds_unwind {aliasName : String} (h : Path.Apart aliasName idName)
    (preserve : Bool) : PreservesIds source [Stage.unwind aliasName preserve] := by
  intro rows out hrun
  rw [run_singleton, runStage_unwind] at hrun
  cases hrun
  intro id hid
  obtain ⟨item, hitem, rfl⟩ := List.mem_map.mp hid
  obtain ⟨row, hrow, hitem⟩ := List.mem_flatMap.mp hitem
  rw [id?_of_mem_unwindRow h hitem]
  exact List.mem_map_of_mem hrow

/-! ## Distinct rows -/

/-- The stages of distinct groups hand out some of the rows, the first of each group. -/
theorem subset_of_distinct {id : Value} {rows out : List Document}
    (hrun : run source [
      Stage.group [(idName, id), (distinctRootName, .document [("$first", .string "$$ROOT")])],
      [("$replaceRoot", .document [("newRoot", .string ("$" ++ distinctRootName))])]] rows =
      .ok out) : out ⊆ rows := by
  rw [run_distinct hrun]
  exact (leadGroups_leaders (sameGroupKey_self id) rows).sublist.subset

end Pipeline

end DocQuery
