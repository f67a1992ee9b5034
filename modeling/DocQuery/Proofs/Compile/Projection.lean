import DocQuery.Proofs.Compile.Pipeline
import DocQuery.Proofs.Engine.Projection

/-!
# What requested fields keep

A projection asks for the identity, for the paths of the requested fields without an alias and for
the input of an aggregate.  Each of these paths reads in the projected rows as in the rows, unless an
alias is put out above, at or below it.
-/

namespace DocQuery

namespace Query

open Pipeline

variable {source : String → List Document} {query : Query} {aggregate : Option Aggregate}
  {main path : String} {spec next stage : Document} {field : Field} {entry : String × Value}

/-- Whether a projection asks for what is at a path. -/
def AsksFor (query : Query) (aggregate : Option Aggregate) (path : String) : Prop :=
  path = idName ∨
    (∃ field ∈ query.rawFields, field.aliasName? = none ∧
      field.storagePath query.schema = .ok path) ∨
    ∃ field method, aggregate = some (.field field method) ∧
      field.storagePath query.schema = .ok path

/-- Whether no requested field is put out above, at or below a path under an alias. -/
def AliasesBeside (query : Query) (path : String) : Prop :=
  ∀ field ∈ query.rawFields, ∀ aliasName, field.aliasName? = some aliasName →
    Path.Apart aliasName path

/-- Whether the projected rows show what is at a path: nothing is projected away, or the path is asked
    for or lies below one that is. -/
def Shows (query : Query) (path : String) : Prop :=
  query.rawFields = [] ∨
    ∃ asked, query.AsksFor none asked ∧ (path = asked ∨ Path.Below path asked)

/-- Whether a row reads as another one wherever the projected rows show it. -/
def ShowsAs (query : Query) (row out : Document) : Prop :=
  ∀ path, query.Shows path → row.ReadsAs path out

theorem shows_idName (query : Query) : query.Shows idName := .inr ⟨idName, .inl rfl, .inl rfl⟩

theorem map_id?_of_showsAs {rows out : List Document} (h : List.Forall₂ query.ShowsAs rows out) :
    out.map Document.id? = rows.map Document.id? := by
  refine Document.map_id?_of_readsAs (h.imp ?_)
  intro row other hshows
  exact hshows idName query.shows_idName

theorem AsksFor.of_none (h : query.AsksFor none path) (aggregate : Option Aggregate) :
    query.AsksFor aggregate path := by
  rcases h with hid | hfield | ⟨field, method, hnone, -⟩
  · exact .inl hid
  · exact .inr (.inl hfield)
  · cases hnone

/-- Whether an entry of a projection copies a field or is the alias of one of some fields. -/
def IsCopyOrAlias (fields : List Field) (entry : String × Value) : Prop :=
  entry.2 = .int32 1 ∨
    (∃ text, entry.2 = .string text) ∧ ∃ field ∈ fields, field.aliasName? = some entry.1

/-! ## Entries -/

/-- A requested field adds the copy of its path or its alias. -/
theorem projectField_eq_ok (h : projectField main spec field = .ok next) :
    ∃ path, field.storagePath main = .ok path ∧
      (field.aliasName? = none ∧ next = spec.insert path (.int32 1) ∨
        ∃ aliasName, field.aliasName? = some aliasName ∧
          next = spec.insert aliasName (.string ("$" ++ path))) := by
  obtain ⟨path, hpath, h⟩ := bind_eq_ok.mp h
  refine ⟨path, hpath, ?_⟩
  cases haliasName : field.aliasName? with
  | none =>
    rw [haliasName] at h
    cases h
    exact .inl ⟨rfl, rfl⟩
  | some aliasName =>
    rw [haliasName] at h
    cases h
    exact .inr ⟨aliasName, rfl, rfl⟩

theorem isCopyOrAlias_projectField {fields : List Field} (hfield : field ∈ fields)
    (hspec : ∀ entry ∈ spec, IsCopyOrAlias fields entry)
    (h : projectField main spec field = .ok next) : ∀ entry ∈ next, IsCopyOrAlias fields entry := by
  obtain ⟨path, -, ⟨-, rfl⟩ | ⟨aliasName, haliasName, rfl⟩⟩ := projectField_eq_ok h
  · intro entry hentry
    rcases Document.mem_insert hentry with rfl | hentry
    · exact .inl rfl
    · exact hspec entry hentry
  · intro entry hentry
    rcases Document.mem_insert hentry with rfl | hentry
    · exact .inr ⟨⟨_, rfl⟩, field, hfield, haliasName⟩
    · exact hspec entry hentry

theorem has_projectField (hspec : spec.has path = true)
    (h : projectField main spec field = .ok next) : next.has path = true := by
  obtain ⟨own, -, ⟨-, rfl⟩ | ⟨aliasName, -, rfl⟩⟩ := projectField_eq_ok h
  · exact Document.has_insert hspec _ _
  · exact Document.has_insert hspec _ _

theorem has_projectField_self (haliasName : field.aliasName? = none)
    (hpath : field.storagePath main = .ok path) (h : projectField main spec field = .ok next) :
    next.has path = true := by
  obtain ⟨own, hown, ⟨-, rfl⟩ | ⟨aliasName, hsome, -⟩⟩ := projectField_eq_ok h
  · cases hown.symm.trans hpath
    exact Document.has_insert_self _ _ _
  · rw [haliasName] at hsome
    cases hsome

/-! ## Projections -/

/-- The entries of a projection before the input of an aggregate is added. -/
theorem foldlM_projectField {fields : List Field}
    (h : fields.foldlM (projectField main) [(idName, .int32 1)] = .ok spec) :
    (∀ entry ∈ spec, IsCopyOrAlias fields entry) ∧ spec.has idName = true ∧
      ∀ field ∈ fields, ∀ path, field.aliasName? = none → field.storagePath main = .ok path →
        spec.has path = true := by
  refine ⟨?_, ?_, ?_⟩
  · refine @foldlM_invariant _ _ _ _ (fun spec => ∀ entry ∈ spec, IsCopyOrAlias fields entry)
      _ _ _ ?_ ?_ h
    · intro field hfield before after hbefore hstep
      exact isCopyOrAlias_projectField hfield hbefore hstep
    · intro entry hentry
      rw [List.mem_singleton.mp hentry]
      exact .inl rfl
  · refine @foldlM_invariant _ _ _ _ (fun spec => Document.has spec idName = true) _ _ _ ?_ rfl h
    intro field _ before after hbefore hstep
    exact has_projectField hbefore hstep
  · intro field hfield path haliasName hpath
    refine @foldlM_settles _ _ _ _ (fun spec => Document.has spec path = true) _ _ _ _ hfield ?_ ?_ h
    · intro before after hstep
      exact has_projectField_self haliasName hpath hstep
    · intro other _ before after hbefore hstep
      exact has_projectField hbefore hstep

/-- A projection copies fields and puts out aliases, and it has every path that it asks for. -/
theorem projection_eq_ok (h : query.projection aggregate = .ok stage) :
    ∃ spec, stage = Stage.project spec ∧
      (∀ entry ∈ spec, IsCopyOrAlias query.rawFields entry) ∧
      ∀ path, query.AsksFor aggregate path → Document.has spec path = true := by
  obtain ⟨spec, hspec, h⟩ := bind_eq_ok.mp h
  obtain ⟨hentries, hid, hfields⟩ := foldlM_projectField hspec
  split at h
  · rename_i source method
    obtain ⟨input, hinput, h⟩ := bind_eq_ok.mp h
    cases h
    refine ⟨_, rfl, ?_, ?_⟩
    · split
      · exact hentries
      · intro entry hentry
        rcases Document.mem_insert hentry with rfl | hentry
        · exact .inl rfl
        · exact hentries entry hentry
    · intro path hpath
      split
      · rename_i hhas
        rcases hpath with rfl | ⟨field, hfield, haliasName, hpath⟩ | ⟨field, _, heq, hpath⟩
        · exact hid
        · exact hfields field hfield path haliasName hpath
        · cases heq
          cases hinput.symm.trans hpath
          exact hhas
      · rcases hpath with rfl | ⟨field, hfield, haliasName, hpath⟩ | ⟨field, _, heq, hpath⟩
        · exact Document.has_insert hid _ _
        · exact Document.has_insert (hfields field hfield path haliasName hpath) _ _
        · cases heq
          cases hinput.symm.trans hpath
          exact Document.has_insert_self _ _ _
  · rename_i hnone
    cases h
    refine ⟨spec, rfl, hentries, ?_⟩
    rintro path (rfl | ⟨field, hfield, haliasName, hpath⟩ | ⟨field, method, heq, -⟩)
    · exact hid
    · exact hfields field hfield path haliasName hpath
    · exact (hnone field method heq).elim

/-- The stage of the requested fields, if there are any, keeps every path that it asks for and that
    the aliases are apart from. -/
theorem readsAs_projectedStages {stages rows projected : List Document}
    (h : query.projectedStages aggregate = .ok stages)
    (hrun : run source stages rows = .ok projected) :
    List.Forall₂ (fun row out => ∀ path, query.AsksFor aggregate path → query.AliasesBeside path →
      Document.ReadsAs path row out) rows projected := by
  unfold projectedStages at h
  split at h
  · cases h
    cases hrun
    exact List.forall₂_same.mpr fun row _ path _ _ => rfl
  · obtain ⟨stage, hstage, h⟩ := bind_eq_ok.mp h
    cases h
    obtain ⟨spec, rfl, hentries, hasked⟩ := projection_eq_ok hstage
    have hprojects : Projects spec := fun entry hentry =>
      (hentries entry hentry).imp_right And.left
    refine (run_project hprojects hrun).imp ?_
    intro row out hrow path hpath hbeside
    have hcomputes : ComputesBeside path spec := by
      intro entry hentry
      refine (hentries entry hentry).imp_right ?_
      rintro ⟨htext, field, hfield, haliasName⟩
      exact ⟨htext, hbeside field hfield _ haliasName⟩
    obtain ⟨value, hvalue⟩ := Document.has_iff.mp (hasked path hpath)
    rw [hcomputes.eq_of_mem hvalue] at hvalue
    exact readsAs_includeFields hvalue hcomputes hrow

/-- The stage of requested fields without aliases keeps every path that is shown. -/
theorem showsAs_projectedStages {stages rows projected : List Document}
    (haliases : ∀ field ∈ query.rawFields, field.aliasName? = none)
    (h : query.projectedStages aggregate = .ok stages)
    (hrun : run source stages rows = .ok projected) :
    List.Forall₂ query.ShowsAs rows projected := by
  by_cases hfields : query.rawFields = []
  · rw [projectedStages, hfields] at h
    cases h
    cases hrun
    exact List.forall₂_same.mpr fun row _ path _ => rfl
  · refine (readsAs_projectedStages h hrun).imp ?_
    intro row out hreads path hshows
    have hbeside : ∀ path, query.AliasesBeside path := by
      intro path field hfield aliasName haliasName
      rw [haliases field hfield] at haliasName
      cases haliasName
    rcases hshows.resolve_left hfields with ⟨asked, hasked, rfl | hbelow⟩
    · exact hreads path (hasked.of_none aggregate) (hbeside path)
    · exact Document.getPath?_congr_of_below hbelow
        (hreads asked (hasked.of_none aggregate) (hbeside asked))

end Query

end DocQuery
