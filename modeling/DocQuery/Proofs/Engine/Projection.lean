import DocQuery.Compile.Stage
import DocQuery.Proofs.Document.Path
import DocQuery.Proofs.Engine.Pipeline

/-!
# What projections keep

A projection copies fields in place or computes them under names of their own.  A path that it
copies reads in the projected row as in the row, whatever else is copied, as long as nothing is
computed above, at or below it.  A removal of fields erases their paths one after the other.
-/

namespace DocQuery

/-- Whether a path reads in a document as in a row. -/
def Document.ReadsAs (path : String) (row doc : Document) : Prop :=
  doc.getPath? path = row.getPath? path

/-- Rows that read the identity as others do have their identities. -/
theorem Document.map_id?_of_readsAs {rows out : List Document}
    (h : List.Forall₂ (ReadsAs idName) rows out) : out.map id? = rows.map id? := by
  induction h with
  | nil => rfl
  | cons hfirst hrest ih =>
    rw [ReadsAs, getPath?_idName, getPath?_idName] at hfirst
    rw [List.map_cons, List.map_cons, hfirst, ih]

namespace Pipeline

variable {source : String → List Document} {spec row out next : Document} {path : String}

/-- Whether a projection copies fields in place or computes them. -/
def Projects (spec : Document) : Prop :=
  ∀ field ∈ spec, field.2 = .int32 1 ∨ ∃ text, field.2 = .string text

/-- Whether a projection computes nothing above, at or below a path. -/
def ComputesBeside (path : String) (spec : Document) : Prop :=
  ∀ field ∈ spec, field.2 = .int32 1 ∨ (∃ text, field.2 = .string text) ∧ Path.Apart field.1 path

theorem not_apart_self (path : String) : ¬Path.Apart path path := fun h => h.1 rfl

/-- What is under a path that nothing is computed at is copied. -/
theorem ComputesBeside.eq_of_mem (h : ComputesBeside path spec) {value : Value}
    (hmem : (path, value) ∈ spec) : value = .int32 1 :=
  (h _ hmem).resolve_right fun hcomputed => not_apart_self path hcomputed.2

/-! ## Fields -/

theorem includeField_copied (row out : Document) (path : String) :
    includeField row out (path, .int32 1) =
      .ok (if path = idName then out
        else (row.getPath? path).elim out (out.setPath path)) := by
  have hflag : isFlag (.int32 1) = true := rfl
  have htruthy : Value.isTruthy (.int32 1) = true := by decide
  rw [includeField, if_pos hflag, htruthy, Bool.not_true, Bool.or_false]
  by_cases hpath : path = idName
  · simp [hpath]
  · rw [if_neg (by simpa using hpath), if_neg hpath]
    cases row.getPath? path <;> rfl

theorem includeField_computed {text : String}
    (h : includeField row out (path, .string text) = .ok next) :
    ∃ value, next = out.setPath path value := by
  obtain ⟨value, -, h⟩ := bind_eq_ok.mp h
  exact ⟨value, (pure_eq_ok.mp h).symm⟩

/-- A path that reads as in the row still does so behind a field that is copied, or computed apart
    from it. -/
theorem readsAs_includeField {field : String × Value}
    (hfield : field.2 = .int32 1 ∨ (∃ text, field.2 = .string text) ∧ Path.Apart field.1 path)
    (hread : row.ReadsAs path out) (h : includeField row out field = .ok next) :
    row.ReadsAs path next := by
  obtain ⟨name, value⟩ := field
  rcases hfield with rfl | ⟨⟨text, rfl⟩, hapart⟩
  · rw [includeField_copied] at h
    cases h
    split
    · exact hread
    · cases hfound : row.getPath? name with
      | none => exact hread
      | some found => exact Document.getPath?_setPath_of_copied hfound hread
  · obtain ⟨computed, rfl⟩ := includeField_computed h
    exact (Document.getPath?_setPath_of_apart out hapart computed).trans hread

/-- Copying a value that is there makes its path read as in the row. -/
theorem readsAs_includeField_self (hpath : path ≠ idName) {value : Value}
    (hvalue : row.getPath? path = some value)
    (h : includeField row out (path, .int32 1) = .ok next) : row.ReadsAs path next := by
  rw [includeField_copied, if_neg hpath, hvalue] at h
  cases h
  rw [Document.ReadsAs, hvalue]
  exact out.getPath?_setPath_self path value

/-! ## The identity -/

theorem id?_keptId (hkeeps : keepsId spec = true) (row : Document) :
    (keptId spec row).id? = row.id? := by
  rw [keptId, if_pos hkeeps]
  cases hid : row.id? with
  | none => rfl
  | some id => rfl

/-- The identity in front of the projected fields adds nothing where the row has nothing. -/
theorem getPath?_keptId_of_none (spec : Document) (h : row.getPath? path = none) :
    (keptId spec row).getPath? path = none := by
  obtain ⟨name, rest, hpath⟩ := List.exists_cons_of_ne_nil (Path.ofString_ne_nil path)
  rw [Document.getPath?, hpath] at h ⊢
  have hnil : Document.getAt? [] (name :: rest) = none := Document.getAt?_nil _
  rw [keptId]
  split
  · cases hid : row.id? with
    | none => exact hnil
    | some id =>
      by_cases hname : idName = name
      · rw [← h]
        refine Document.getAt?_cons_congr ?_ rest
        rw [← hname]
        exact hid.symm
      · rw [← hnil]
        refine Document.getAt?_cons_congr ?_ rest
        show Document.get? [(idName, id)] name = none
        rw [Document.get?, if_neg hname, Document.get?_nil]
  · exact hnil

theorem keepsId_of_mem (h : ComputesBeside idName spec) (hasked : (idName, .int32 1) ∈ spec) :
    keepsId spec = true := by
  obtain ⟨flag, hflag⟩ := Option.isSome_iff_exists.mp (Document.has_iff.mpr ⟨_, hasked⟩)
  rw [keepsId, hflag, h.eq_of_mem (Document.mem_of_get? hflag)]
  rfl

/-! ## Rows -/

/-- A copied path reads in the projected row as in the row, if nothing is computed above, at or
    below it. -/
theorem readsAs_includeFields (hasked : (path, .int32 1) ∈ spec)
    (hbeside : ComputesBeside path spec) (h : includeFields spec row = .ok out) :
    row.ReadsAs path out := by
  have hkeeps : ∀ field ∈ spec, ∀ before after : Document, row.ReadsAs path before →
      includeField row before field = .ok after → row.ReadsAs path after := by
    intro field hfield before after hread hstep
    exact readsAs_includeField (hbeside field hfield) hread hstep
  -- The path reads so from the start, or from where it is copied.
  by_cases hpath : path = idName
  · subst hpath
    have hid : row.ReadsAs idName (keptId spec row) := by
      rw [Document.ReadsAs, Document.getPath?_idName, Document.getPath?_idName,
        id?_keptId (keepsId_of_mem hbeside hasked)]
    exact foldlM_invariant hkeeps hid h
  · cases hvalue : row.getPath? path with
    | none =>
      have hnone : row.ReadsAs path (keptId spec row) :=
        (getPath?_keptId_of_none spec hvalue).trans hvalue.symm
      exact foldlM_invariant hkeeps hnone h
    | some value =>
      refine foldlM_settles hasked ?_ hkeeps h
      intro before after hstep
      exact readsAs_includeField_self hpath hvalue hstep

theorem isExclusion_of_projects (h : Projects spec) : isExclusion spec = false := by
  have hkeeps : ∀ field ∈ spec, isZeroFlag field.2 = false := by
    intro field hfield
    rcases h field hfield with hvalue | ⟨text, hvalue⟩ <;> rw [hvalue] <;> rfl
  rw [isExclusion]
  cases hothers : spec.filter fun field => field.1 ≠ idName with
  | nil =>
    cases hflag : Document.get? spec idName with
    | none => rfl
    | some flag => exact hkeeps _ (Document.mem_of_get? hflag)
  | cons first rest =>
    have hfirst : first ∈ spec := List.mem_of_mem_filter (hothers ▸ List.mem_cons_self)
    show (isZeroFlag first.2 && rest.all fun field => isZeroFlag field.2) = false
    rw [hkeeps first hfirst, Bool.false_and]

/-- A projection that copies and computes makes a row of each row. -/
theorem run_project (h : Projects spec) {rows projected : List Document}
    (hrun : run source [Stage.project spec] rows = .ok projected) :
    List.Forall₂ (fun row out => includeFields spec row = .ok out) rows projected := by
  rw [run_singleton, runStage_project, projectRows, isExclusion_of_projects h] at hrun
  exact mapM_eq_ok.mp hrun

/-! ## Copies -/

/-- The projection that copies what is at some paths. -/
def copies (paths : List String) : Document :=
  Document.ofList (paths.map fun path => (path, .int32 1))

theorem eq_of_mem_copies {paths : List String} {field : String × Value}
    (h : field ∈ copies paths) : field.1 ∈ paths ∧ field.2 = .int32 1 := by
  obtain ⟨path, hpath, rfl⟩ := List.mem_map.mp (Document.mem_ofList h)
  exact ⟨hpath, rfl⟩

theorem mem_copies {paths : List String} (h : path ∈ paths) : (path, .int32 1) ∈ copies paths := by
  have hname : path ∈ (copies paths).names :=
    Document.mem_names_ofList.mpr (by simpa [Function.comp_def] using h)
  obtain ⟨field, hfield, rfl⟩ := List.mem_map.mp hname
  rw [← (eq_of_mem_copies hfield).2]
  exact hfield

theorem insert_copies (paths : List String) (path : String) :
    Document.insert (copies paths) path (.int32 1) = copies (paths ++ [path]) := by
  simp [copies, Document.ofList, Document.insertAll]

/-- A path that is copied already is not written again. -/
theorem copies_append_of_has {paths : List String} (h : Document.has (copies paths) path = true) :
    copies (paths ++ [path]) = copies paths := by
  obtain ⟨value, hvalue⟩ := Option.isSome_iff_exists.mp h
  have hcopied : value = .int32 1 := (eq_of_mem_copies (Document.mem_of_get? hvalue)).2
  rw [← insert_copies]
  exact Document.insert_of_get? (hcopied ▸ hvalue)

/-- Copies never fail. -/
theorem exists_includeFields_of_copied (h : ∀ field ∈ spec, field.2 = .int32 1) (row : Document) :
    ∃ out, includeFields spec row = .ok out := by
  unfold includeFields
  generalize keptId spec row = kept
  induction spec generalizing kept with
  | nil => exact ⟨kept, rfl⟩
  | cons field rest ih =>
    obtain ⟨hfield, hrest⟩ := List.forall_mem_cons.mp h
    obtain ⟨name, value⟩ := field
    cases hfield
    rw [List.foldlM_cons, includeField_copied]
    exact ih hrest _

theorem getPath?_keptId_of_apart (spec row : Document) (h : Path.Apart idName path) :
    (keptId spec row).getPath? path = none := by
  have hnil : Document.getPath? [] path = none := Document.getAt?_nil _
  rw [keptId]
  split
  · cases row.id? with
    | none => exact hnil
    | some id =>
      rw [← hnil, ← Document.getPath?_setPath_of_apart [] h id,
        Document.setPath_of_no_dot (by decide)]
      rfl
  · exact hnil

/-- Copies put nothing at a path that is apart from the identity and from all of theirs. -/
theorem getPath?_includeFields_of_apart (hcopied : ∀ field ∈ spec, field.2 = .int32 1)
    (hid : Path.Apart idName path) (hapart : ∀ field ∈ spec, Path.Apart field.1 path)
    (h : includeFields spec row = .ok out) : out.getPath? path = none := by
  refine @foldlM_invariant _ _ _ _ (fun out => Document.getPath? out path = none) _ _ _ ?_
    (getPath?_keptId_of_apart spec row hid) h
  rintro ⟨name, value⟩ hfield before after hbefore hstep
  cases hcopied _ hfield
  rw [includeField_copied] at hstep
  cases hstep
  split
  · exact hbefore
  · cases row.getPath? name with
    | none => exact hbefore
    | some found =>
      exact (Document.getPath?_setPath_of_apart before (hapart _ hfield) found).trans hbefore

/-- The projection to the identity and some paths makes one row of a row.  The row reads as before
    at the identity, at the paths and below them, and nothing else is in it but what is around
    these. -/
theorem run_copies (paths : List String) (row : Document) :
    ∃ out, run source [Stage.project (copies (idName :: paths))] [row] = .ok [out] ∧
      (∀ asked ∈ idName :: paths, ∀ path, path = asked ∨ Path.Below path asked →
        row.ReadsAs path out) ∧
      ∀ path, (∀ asked ∈ idName :: paths, Path.Apart asked path) → out.getPath? path = none := by
  have hcopied : ∀ field ∈ copies (idName :: paths), field.2 = .int32 1 := fun field hfield =>
    (eq_of_mem_copies hfield).2
  obtain ⟨out, hout⟩ := exists_includeFields_of_copied hcopied row
  refine ⟨out, ?_, ?_, ?_⟩
  · rw [run_singleton, runStage_project, projectRows,
      isExclusion_of_projects fun field hfield => .inl (hcopied field hfield), List.mapM_cons, hout]
    rfl
  · intro asked hasked
    have hread : row.ReadsAs asked out :=
      readsAs_includeFields (mem_copies hasked) (fun field hfield => .inl (hcopied field hfield))
        hout
    rintro path (rfl | hbelow)
    · exact hread
    · exact Document.getPath?_congr_of_below hbelow hread
  · intro path hapart
    refine getPath?_includeFields_of_apart hcopied (hapart _ List.mem_cons_self) ?_ hout
    exact fun field hfield => hapart _ (eq_of_mem_copies hfield).1

/-! ## Removals -/

theorem isExclusion_of_zeros (hne : spec ≠ []) (h : ∀ field ∈ spec, field.2 = .int32 0) :
    isExclusion spec = true := by
  have hzero : ∀ field ∈ spec, isZeroFlag field.2 = true := by
    intro field hfield
    rw [h field hfield]
    rfl
  rw [isExclusion]
  cases hothers : spec.filter fun field => field.1 ≠ idName with
  | nil =>
    -- Only the identity is removed.
    obtain ⟨⟨name, value⟩, rest, hspec⟩ := List.exists_cons_of_ne_nil hne
    have hmem : (name, value) ∈ spec := hspec ▸ List.mem_cons_self
    have hname : name = idName := by simpa using List.filter_eq_nil_iff.mp hothers _ hmem
    obtain ⟨flag, hflag⟩ := Option.isSome_iff_exists.mp
      (Document.has_iff.mpr ⟨value, hname ▸ hmem⟩)
    rw [hflag]
    exact hzero _ (Document.mem_of_get? hflag)
  | cons first rest =>
    refine List.all_eq_true.mpr fun field hfield => hzero field ?_
    exact List.mem_of_mem_filter (hothers ▸ hfield)

theorem excludeFields_of_zeros (h : ∀ field ∈ spec, field.2 = .int32 0) (row : Document) :
    excludeFields spec row = row.erasePaths spec.names := by
  have hall : (spec.filter fun field => !field.2.isTruthy) = spec := by
    refine List.filter_eq_self.mpr fun field hfield => ?_
    rw [h field hfield]
    rfl
  rw [excludeFields, hall, Document.erasePaths, Document.names, List.foldl_map]

/-- A removal erases the paths of its fields in every row. -/
theorem run_remove (hne : spec ≠ []) (h : ∀ field ∈ spec, field.2 = .int32 0)
    (rows : List Document) :
    run source [Stage.project spec] rows = .ok (rows.map (·.erasePaths spec.names)) := by
  rw [run_singleton, runStage_project, projectRows, isExclusion_of_zeros hne h, if_pos rfl,
    funext (excludeFields_of_zeros h)]

end Pipeline

end DocQuery
