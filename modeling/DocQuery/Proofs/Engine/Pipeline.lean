import DocQuery.Proofs.Engine.Predicate
import DocQuery.Proofs.Engine.Sorting

/-!
# What stages do to rows

A stage that filters keeps the rows that satisfy its predicate, a stage that sorts permutes them,
and the stage that keeps identities maps each row to the document of its own.
-/

namespace DocQuery

namespace Pipeline

variable {source : String → List Document}

/-! ## Filtering -/

theorem keepRows_eq_ok {predicate : Document} {rows kept : List Document}
    (h : keepRows predicate rows = .ok kept) :
    kept = rows.filter fun row => row.isMatch predicate := by
  induction rows generalizing kept with
  | nil =>
    cases h
    rfl
  | cons row rest ih =>
    obtain ⟨holds, hholds, h⟩ := bind_eq_ok.mp h
    obtain ⟨others, hothers, h⟩ := bind_eq_ok.mp h
    rw [List.filter_cons, Document.isMatch_of_satisfies hholds, ← ih hothers]
    cases h
    rfl

/-- Rows are kept only where the predicate answers of each of them. -/
theorem satisfies_of_keepRows {predicate : Document} {rows kept : List Document}
    (h : keepRows predicate rows = .ok kept) :
    ∀ row ∈ rows, ∃ holds, row.satisfies predicate = .ok holds := by
  induction rows generalizing kept with
  | nil => exact List.forall_mem_nil _
  | cons row rest ih =>
    obtain ⟨holds, hholds, h⟩ := bind_eq_ok.mp h
    obtain ⟨others, hothers, -⟩ := bind_eq_ok.mp h
    exact List.forall_mem_cons.mpr ⟨⟨holds, hholds⟩, ih hothers⟩

theorem runStage_keep (predicate : Document) (rows : List Document) :
    runStage source rows (Stage.keep predicate) = keepRows predicate rows := by
  rw [Stage.keep, runStage, if_pos rfl]
  rfl

/-! ## Sorting rows -/

theorem SortPath.order_eq_swap (key : SortPath) (a b : Document) :
    key.order a b = (key.order b a).swap := by
  unfold SortPath.order
  rw [Value.order_eq_swap]
  split <;> rfl

theorem orderRows_eq_swap (keys : List SortPath) (a b : Document) :
    orderRows keys a b = (orderRows keys b a).swap := by
  induction keys with
  | nil => rfl
  | cons key rest ih => rw [orderRows, orderRows, Ordering.swap_then, ← ih, ← key.order_eq_swap]

instance (keys : List SortPath) : Std.OrientedCmp (orderRows keys) := ⟨orderRows_eq_swap keys _ _⟩

/-- Whether the values of a row at several paths are orderable. -/
def OrderableAt (keys : List SortPath) (row : Document) : Prop :=
  ∀ key ∈ keys, (row.valueAt key.path).isOrderable = true

/-- The order by several paths is a total preorder of the rows with orderable values there. -/
theorem orderRows_composes (keys : List SortPath) :
    ComposesOn (orderRows keys) (OrderableAt keys) := by
  intro a b c ha hb hc
  induction keys with
  | nil => exact .eq
  | cons key rest ih =>
    obtain ⟨ha, harest⟩ := List.forall_mem_cons.mp ha
    obtain ⟨hb, hbrest⟩ := List.forall_mem_cons.mp hb
    obtain ⟨hc, hcrest⟩ := List.forall_mem_cons.mp hc
    have hvalues := Value.order_composes _ _ _ ha hb hc
    have hkey : Composes (key.order a b) (key.order b c) (key.order a c) := by
      unfold SortPath.order
      by_cases hdescending : key.descending = true
      · simp only [hdescending, if_true]
        exact hvalues.swap
      · simp only [hdescending]
        exact hvalues
    exact hkey.andThen fun _ _ => ih harest hbrest hcrest

theorem sortRows_perm {spec : Document} {rows sorted : List Document}
    (h : sortRows spec rows = .ok sorted) : sorted.Perm rows := by
  obtain ⟨keys, -, h⟩ := bind_eq_ok.mp h
  cases h
  exact stableSort_perm _ rows

theorem runStage_sort (spec : Document) (rows : List Document) :
    runStage source rows [("$sort", .document spec)] = sortRows spec rows := by
  rw [runStage, if_neg (by decide), if_neg (by decide), if_neg (by decide), if_neg (by decide),
    if_pos rfl]
  rfl

/-! ## Reducing rows -/

theorem runStage_group (spec : Document) (rows : List Document) :
    runStage source rows (Stage.group spec) = groupRows spec rows := by
  rw [Stage.group, runStage, if_neg (by decide), if_neg (by decide), if_pos rfl]
  rfl

theorem runStage_count (name : Value) (rows : List Document) :
    runStage source rows [("$count", name)] = countRows name rows := by
  rw [runStage, if_neg (by decide), if_neg (by decide), if_neg (by decide), if_neg (by decide),
    if_neg (by decide), if_neg (by decide), if_neg (by decide), if_pos rfl]

/-! ## Identities -/

/-- The row with nothing but its identity, if it has one. -/
def idRow (row : Document) : Document := row.id?.toList.map fun id => (idName, id)

theorem id?_idRow (row : Document) : (idRow row).id? = row.id? := by
  unfold idRow
  cases hid : row.id? with
  | none => rfl
  | some id => rfl

theorem runStage_project (spec : Document) (rows : List Document) :
    runStage source rows (Stage.project spec) = projectRows spec rows := by
  rw [Stage.project, runStage, if_neg (by decide), if_pos rfl]
  rfl

theorem includeFields_id (row : Document) :
    includeFields [(idName, .int32 1)] row = .ok (idRow row) := by
  have hkept : keptId [(idName, .int32 1)] row = idRow row := by
    have hkeeps : keepsId [(idName, .int32 1)] = true := by decide
    rw [keptId, if_pos hkeeps, idRow]
    cases row.id? <;> rfl
  have hfield : includeField row (idRow row) (idName, .int32 1) = .ok (idRow row) := rfl
  rw [includeFields, hkept, List.foldlM_cons, hfield]
  rfl

theorem runStage_idOnly (rows : List Document) :
    runStage source rows Stage.idOnly = .ok (rows.map idRow) := by
  have hincludes : isExclusion [(idName, .int32 1)] = false := by decide
  rw [Stage.idOnly, runStage_project, projectRows, hincludes, funext includeFields_id]
  exact List.mapM_pure

/-! ## Joining rows -/

theorem runStage_lookup (collection localPath foreignPath aliasName : String)
    (rows : List Document) :
    runStage source rows (Stage.lookup collection localPath foreignPath aliasName) =
      .ok (lookupRows ⟨collection, localPath, foreignPath, aliasName⟩ (source collection) rows) :=
  rfl

theorem unwindOf_unwind (aliasName : String) (preserve : Bool) :
    unwindOf (.document [("path", .string ("$" ++ aliasName)),
      ("preserveNullAndEmptyArrays", .boolean preserve)]) = .ok (aliasName, preserve) := by
  have hchars : ("$" ++ aliasName).toList = '$' :: aliasName.toList := by simp
  have hpath : Document.getString? [("path", .string ("$" ++ aliasName)),
      ("preserveNullAndEmptyArrays", .boolean preserve)] "path" = some ("$" ++ aliasName) := rfl
  unfold unwindOf
  simp only [hpath, bind, Except.bind, hchars, String.ofList_toList]
  rfl

theorem runStage_unwind (aliasName : String) (preserve : Bool) (rows : List Document) :
    runStage source rows (Stage.unwind aliasName preserve) =
      .ok (rows.flatMap (unwindRow aliasName preserve)) := by
  have hunwind := unwindOf_unwind aliasName preserve
  show (unwindOf _ >>= fun spec => pure (rows.flatMap (unwindRow spec.1 spec.2)) : Run _) = _
  rw [hunwind]
  rfl

/-! ## Runs -/

theorem run_append (stages others : List Document) (rows : List Document) :
    run source (stages ++ others) rows = run source stages rows >>= run source others := by
  unfold run
  rw [List.foldlM_append]

theorem run_append_of_ok {stages rows between : List Document}
    (h : run source stages rows = .ok between) (others : List Document) :
    run source (stages ++ others) rows = run source others between := by
  rw [run_append, h]
  rfl

/-- No stages hand out the rows that they take in. -/
theorem eq_of_run_nil {stages rows out : List Document} (h : stages = [])
    (hrun : run source stages rows = .ok out) : out = rows := by
  rw [h] at hrun
  exact (Except.ok.inj hrun).symm

theorem run_singleton (stage : Document) (rows : List Document) :
    run source [stage] rows = runStage source rows stage := by
  unfold run
  rw [List.foldlM_cons]
  cases runStage source rows stage <;> rfl

/-- The stage of a predicate, if there is one, keeps the rows that satisfy it, and it answers of
    each of them. -/
theorem run_keep {predicate : Option Document} {rows kept : List Document}
    (h : run source (predicate.map Stage.keep).toList rows = .ok kept) :
    (∀ row ∈ rows, ∃ holds, row.satisfies (predicate.getD []) = .ok holds) ∧
      kept = rows.filter fun row => row.isMatch (predicate.getD []) := by
  cases predicate with
  | none =>
    cases h
    exact ⟨fun row _ => ⟨true, rfl⟩, (List.filter_eq_self.mpr fun row _ => rfl).symm⟩
  | some predicate =>
    rw [Option.map_some, Option.toList_some, run_singleton, runStage_keep] at h
    exact ⟨satisfies_of_keepRows h, keepRows_eq_ok h⟩

theorem run_cons (stage : Document) (stages rows : List Document) :
    run source (stage :: stages) rows = runStage source rows stage >>= run source stages := by
  unfold run
  rw [List.foldlM_cons]

end Pipeline

end DocQuery
