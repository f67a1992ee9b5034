import DocQuery.Proofs.Compile.Pipeline
import DocQuery.Proofs.Engine.Projection

/-!
# What the removal of joined documents leaves

The last stage of a query with joins removes the joined aliases that no requested field is read from
under its own path.  A name reads there as before if every joined alias is apart from it or stays.
-/

namespace DocQuery

namespace Query

open Pipeline

variable {source : String → List Document} {query : Query} {name path : String} {field : Field}

/-- Whether joined documents appear under a name. -/
def Joins (query : Query) (name : String) : Prop :=
  ∃ join ∈ query.joins, join.outputAlias? = some name

/-- Whether a requested field without an alias is at a name or below it. -/
def Reads (query : Query) (name : String) : Prop :=
  ∃ field ∈ query.rawFields, field.isPath = true ∧ field.aliasName? = none ∧
    ∃ path, field.storagePath query.schema = .ok path ∧ (path = name ∨ Path.Below path name)

/-- Whether the removal of joined documents leaves what is read at a name: each joined alias is apart
    from it, or stays because a requested field reads it. -/
def Keeps (query : Query) (name : String) : Prop :=
  ∀ aliasName, query.Joins aliasName → Path.Apart aliasName name ∨ query.Reads aliasName

theorem readsAlias_iff {aliasName : String} :
    readsAlias aliasName path = true ↔ path = aliasName ∨ Path.Below path aliasName := by
  rw [readsAlias, Bool.or_eq_true, decide_eq_true_iff, Path.below_iff, List.isPrefixOf_iff_prefix]

/-- A requested field without an alias keeps its own place, unless a joined alias continues it. -/
theorem keeps_of_unaliased (hfield : field ∈ query.rawFields) (hpath : field.isPath = true)
    (haliasName : field.aliasName? = none) (hstored : field.storagePath query.schema = .ok path)
    (hbelow : ∀ aliasName, query.Joins aliasName → ¬Path.Below aliasName path) :
    query.Keeps path := by
  intro aliasName hjoins
  by_cases hreads : path = aliasName ∨ Path.Below path aliasName
  · exact .inr ⟨field, hfield, hpath, haliasName, path, hstored, hreads⟩
  · obtain ⟨hne, habove⟩ := not_or.mp hreads
    exact .inl ⟨Ne.symm hne, hbelow aliasName hjoins, habove⟩

theorem mem_unaliasedPaths {paths : List String} (h : query.unaliasedPaths = .ok paths)
    (hfield : field ∈ query.rawFields) (hpath : field.isPath = true)
    (haliasName : field.aliasName? = none) (hstored : field.storagePath query.schema = .ok path) :
    path ∈ paths := by
  have hunaliased : (field.isPath && field.aliasName?.isNone) = true := by
    rw [hpath, haliasName]
    rfl
  obtain ⟨found, hfound, hstep⟩ :=
    exists_mem_of_mapM h (List.mem_filter.mpr ⟨hfield, hunaliased⟩)
  cases hstep.symm.trans hstored
  exact hfound

/-- The last stage erases the same joined aliases, which nothing requested reads, from all rows that
    it is run on, and nothing else. -/
theorem aliasExclusion_eq_ok {exclusion : Option Document}
    (h : query.aliasExclusion = .ok exclusion) :
    ∃ removed : List String,
      (∀ aliasName ∈ removed, query.Joins aliasName ∧ ¬query.Reads aliasName) ∧
      ∀ source rows, run source exclusion.toList rows = .ok (rows.map (·.erasePaths removed)) := by
  have hnothing : ∀ (source : String → List Document) (rows : List Document),
      run source [] rows = .ok (rows.map (·.erasePaths [])) := by
    intro source rows
    exact congrArg Except.ok (List.map_id rows).symm
  unfold aliasExclusion at h
  split at h
  · cases h
    exact ⟨[], List.forall_mem_nil _, hnothing⟩
  · obtain ⟨paths, hpaths, h⟩ := bind_eq_ok.mp h
    dsimp only at h
    split at h
    · cases h
      exact ⟨[], List.forall_mem_nil _, hnothing⟩
    · rename_i hunread
      cases h
      generalize hremoved : ((query.joins.filterMap Join.outputAlias?).filter fun aliasName =>
        !paths.any (readsAlias aliasName)) = unread at hunread
      have hfields : ∀ entry ∈ Document.ofList (unread.map fun aliasName =>
          (aliasName, Value.int32 0)), entry.1 ∈ unread ∧ entry.2 = .int32 0 := by
        intro entry hentry
        obtain ⟨aliasName, haliasName, rfl⟩ := List.mem_map.mp (Document.mem_ofList hentry)
        exact ⟨haliasName, rfl⟩
      have hne : Document.ofList (unread.map fun aliasName => (aliasName, Value.int32 0)) ≠ [] :=
        Document.ofList_ne_nil (by simpa using hunread)
      refine ⟨_, ?_, fun source rows => run_remove hne (fun entry hentry => (hfields entry hentry).2)
        rows⟩
      intro aliasName haliasName
      obtain ⟨entry, hentry, rfl⟩ := List.mem_map.mp haliasName
      have hmem := (hfields entry hentry).1
      rw [← hremoved] at hmem
      obtain ⟨hjoined, hunread⟩ := List.mem_filter.mp hmem
      obtain ⟨join, hjoin, houtput⟩ := List.mem_filterMap.mp hjoined
      refine ⟨⟨join, hjoin, houtput⟩, ?_⟩
      rintro ⟨field, hfield, hpath, hnone, path, hstored, hreads⟩
      have hany : paths.any (readsAlias entry.1) = true :=
        List.any_eq_true.mpr ⟨path, mem_unaliasedPaths hpaths hfield hpath hnone hstored,
          readsAlias_iff.mpr hreads⟩
      rw [hany] at hunread
      cases hunread

/-- The last stage leaves what is read at the names that it keeps. -/
theorem readsAs_aliasExclusion {exclusion : Option Document} {rows out : List Document}
    (h : query.aliasExclusion = .ok exclusion)
    (hrun : run source exclusion.toList rows = .ok out) :
    List.Forall₂ (fun row left => ∀ name, query.Keeps name → Document.ReadsAs name row left)
      rows out := by
  obtain ⟨removed, hremoved, hruns⟩ := aliasExclusion_eq_ok h
  cases hrun.symm.trans (hruns source rows)
  rw [List.forall₂_map_right_iff]
  refine List.forall₂_same.mpr fun row _ name hkeeps => ?_
  refine Document.getPath?_erasePaths_of_apart row fun aliasName haliasName => ?_
  obtain ⟨hjoins, hreads⟩ := hremoved aliasName haliasName
  exact (hkeeps aliasName hjoins).resolve_right hreads

end Query

end DocQuery
