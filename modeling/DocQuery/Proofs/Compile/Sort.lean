import DocQuery.Compile.Stage
import DocQuery.Proofs.Document.Basic
import DocQuery.Proofs.Engine.Agreement
import Mathlib.Data.List.Forall2

/-!
# What sorts do

Sort keys with paths of their own are merged into one stage, in their order.  The stage sorts stably
by the first key, then by the second, and so on, wherever the values at the paths are orderable.
-/

namespace DocQuery

theorem SortKey.stage_eq_some {sorts : List SortKey} {main : String} {stage : Document}
    (h : SortKey.stage sorts main = .ok (some stage)) :
    ∃ spec, stage = [("$sort", .document spec)] := by
  unfold SortKey.stage at h
  split at h
  · cases h
  · obtain ⟨spec, -, h⟩ := bind_eq_ok.mp h
    cases h
    exact ⟨spec, rfl⟩

/-- Whatever the sort keys are, their stage loses and repeats no row. -/
theorem Pipeline.run_sort {source : String → List Document} {sorts : List SortKey} {main : String}
    {sort : Option Document} {rows sorted : List Document}
    (hsort : SortKey.stage sorts main = .ok sort)
    (h : run source sort.toList rows = .ok sorted) : sorted.Perm rows := by
  cases sort with
  | none =>
    cases h
    exact List.Perm.refl _
  | some stage =>
    obtain ⟨spec, rfl⟩ := SortKey.stage_eq_some hsort
    rw [Option.toList_some, run_singleton, runStage_sort] at h
    exact sortRows_perm h

/-! ## What sorts read -/

namespace SortKey

variable {main path : String} {sorts : List SortKey} {spec next : Document}

/-- Whether rows are sorted by what is at a path. -/
def Reads (main path : String) : SortKey → Prop
  | .field source _ => source.storagePath main = .ok path
  | .custom node => ∃ doc, node.render = .ok (.document doc) ∧ path ∈ Document.names doc

theorem reads_of_extend {sort : SortKey} (h : extend main spec sort = .ok next) :
    ∀ field ∈ next, field ∈ spec ∨ sort.Reads main field.1 := by
  intro field hfield
  cases sort with
  | field source direction =>
    obtain ⟨path, hpath, h⟩ := bind_eq_ok.mp h
    obtain ⟨value, -, h⟩ := bind_eq_ok.mp h
    cases h
    rcases Document.mem_insert hfield with rfl | hfield
    · exact .inr hpath
    · exact .inl hfield
  | custom node =>
    obtain ⟨value, hvalue, h⟩ := bind_eq_ok.mp h
    cases value with
    | document doc =>
      cases h
      rcases Document.mem_insertAll hfield with hfield | hfield
      · exact .inl hfield
      · exact .inr ⟨doc, hvalue, List.mem_map_of_mem hfield⟩
    | _ => cases h

/-- The specification of sort keys names only paths that one of them reads. -/
theorem reads_of_stage (h : stage sorts main = .ok (some [("$sort", .document spec)])) :
    ∀ field ∈ spec, ∃ sort ∈ sorts, sort.Reads main field.1 := by
  unfold stage at h
  split at h
  · cases h
  · obtain ⟨spec', hspec, h⟩ := bind_eq_ok.mp h
    cases h
    refine @foldlM_invariant _ _ _ _
      (fun spec => ∀ field ∈ spec, ∃ sort ∈ sorts, sort.Reads main field.1) _ _ _ ?_ ?_ hspec
    · intro sort hsort before after hbefore hstep field hfield
      rcases reads_of_extend hstep field hfield with hfield | hreads
      · exact hbefore field hfield
      · exact ⟨sort, hsort, hreads⟩
    · exact List.forall_mem_nil _

end SortKey

/-- Rows that read alike wherever they are sorted by are sorted alike. -/
theorem Pipeline.forall₂_sort {source : String → List Document} {sorts : List SortKey}
    {main : String} {sort : Option Document} {rows others sorted sorted' : List Document}
    {related : Document → Document → Prop}
    (hreads : ∀ row other, related row other → ∀ sort ∈ sorts, ∀ path, sort.Reads main path →
      row.ReadsAs path other)
    (h : List.Forall₂ related rows others) (hsort : SortKey.stage sorts main = .ok sort)
    (hsorted : run source sort.toList rows = .ok sorted)
    (hsorted' : run source sort.toList others = .ok sorted') :
    List.Forall₂ related sorted sorted' := by
  cases sort with
  | none =>
    cases hsorted
    cases hsorted'
    exact h
  | some stage =>
    obtain ⟨spec, rfl⟩ := SortKey.stage_eq_some hsort
    rw [Option.toList_some, run_singleton, runStage_sort] at hsorted hsorted'
    refine forall₂_sortRows ?_ h hsorted hsorted'
    intro row other hrelated field hfield
    obtain ⟨sort, hmem, hpath⟩ := SortKey.reads_of_stage hsort field hfield
    exact hreads row other hrelated sort hmem field.1 hpath

/-! ## Built-in sort keys -/

/-- Whether a sort key is built in and sorts by a path in a direction. -/
def SortKey.SortsBy (main : String) (sort : SortKey) (key : Pipeline.SortPath) : Prop :=
  ∃ source, source.storagePath main = .ok key.path ∧
    sort = .field source (if key.descending then .descending else .ascending)

namespace Pipeline

/-- The entry of a sort specification that names a path and its direction. -/
def SortPath.entry (key : SortPath) : String × Value :=
  (key.path, if key.descending then .int32 (-1) else .int32 1)

theorem isDescending_entry (key : SortPath) : isDescending key.entry.2 = .ok key.descending := by
  rcases key with ⟨path, descending⟩
  cases descending <;> rfl

/-- The entries of a specification are read as the paths and directions that they name. -/
theorem sortRows_entries (keys : List SortPath) (rows : List Document) :
    sortRows (keys.map SortPath.entry) rows =
      .ok (stableSort (fun a b => orderRows keys a b == .lt) rows) := by
  have hkeys : (keys.map SortPath.entry).mapM (fun field => do
      return (⟨field.1, ← isDescending field.2⟩ : SortPath)) = (.ok keys : Run _) := by
    rw [List.mapM_map]
    induction keys with
    | nil => rfl
    | cons key rest ih =>
      rw [List.mapM_cons, Function.comp_apply, isDescending_entry, ih]
      rfl
  rw [sortRows, hkeys]
  rfl

end Pipeline

namespace SortKey

open Pipeline

variable {main : String} {sorts : List SortKey} {keys : List SortPath}

theorem extend_of_sortsBy {sort : SortKey} {key : SortPath} (h : sort.SortsBy main key)
    (spec : Document) : extend main spec sort = .ok (spec.insert key.entry.1 key.entry.2) := by
  obtain ⟨source, hpath, rfl⟩ := h
  rw [extend, hpath]
  rcases key with ⟨path, descending⟩
  cases descending <;> rfl

theorem foldlM_extend (h : List.Forall₂ (SortsBy main) sorts keys) (spec : Document) :
    sorts.foldlM (extend main) spec = .ok (spec.insertAll (keys.map SortPath.entry)) := by
  induction h generalizing spec with
  | nil => rfl
  | cons hsort hrest ih =>
    rw [List.foldlM_cons, extend_of_sortsBy hsort]
    exact ih _

/-- Sort keys with paths of their own compile to a stage of their entries in order; without keys
    there is no stage. -/
theorem stage_of_sortsBy (h : List.Forall₂ (SortsBy main) sorts keys)
    (hpaths : (keys.map SortPath.path).Nodup) :
    stage sorts main = .ok (if sorts.isEmpty then none
      else some [("$sort", .document (keys.map SortPath.entry))]) := by
  have hnames : ((keys.map SortPath.entry).map Prod.fst).Nodup := by
    rw [List.map_map]
    exact hpaths
  rw [stage, foldlM_extend h, ← Document.ofList, Document.ofList_eq_self hnames]
  cases sorts.isEmpty <;> rfl

/-- The stage of sort keys with paths of their own sorts rows stably by the keys, the first
    difference deciding, if the values of the rows at the paths are orderable. -/
theorem stablySorted_of_run {source : String → List Document} {sort : Option Document}
    {rows sorted : List Document} (h : List.Forall₂ (SortsBy main) sorts keys)
    (hpaths : (keys.map SortPath.path).Nodup) (horderable : ∀ row ∈ rows, OrderableAt keys row)
    (hsort : stage sorts main = .ok sort) (hrun : run source sort.toList rows = .ok sorted) :
    StablySorted (orderRows keys) rows sorted := by
  rw [stage_of_sortsBy h hpaths] at hsort
  cases hsort
  cases h with
  | nil =>
    cases hrun
    exact ⟨List.Perm.refl _, List.pairwise_of_forall fun _ _ => nofun, fun _ _ => rfl⟩
  | cons hfirst hrest =>
    rw [List.isEmpty_cons, if_neg (by decide), Option.toList_some, run_singleton, runStage_sort,
      sortRows_entries] at hrun
    cases hrun
    exact stablySorted_stableSort fun a b c ha hb hc =>
      orderRows_composes _ a b c (horderable a ha) (horderable b hb) (horderable c hc)

end SortKey

end DocQuery
