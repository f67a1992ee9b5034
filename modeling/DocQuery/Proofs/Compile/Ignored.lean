import DocQuery.Proofs.Compile.Update

/-!
# Changes that are passed over

An entry whose value is nil, and for which nil leaves the field as it is, adds nothing to an update of
assignments and removals.  The array operations do not look at what nil means for an entry: there
such an entry adds or removes a null, and leaving it out changes the update.
-/

namespace DocQuery

/-- Whether an entry has a nil value that is to leave its field as it is. -/
def ChangeEntry.isIgnored (entry : ChangeEntry) : Bool :=
  entry.operand.isNil && entry.onNil = .ignore

/-- The changes without the entries that are to leave their fields as they are. -/
def Changes.withoutIgnored (changes : Changes) : Changes :=
  { changes with entries := changes.entries.filter fun entry => !entry.isIgnored }

namespace ChangeEntry

variable {encoder : Encoder} {entry : ChangeEntry}

theorem not_filled_of_isNil {operand : Operand} (h : operand.isNil = true) :
    ∀ entry rest, operand = .dictionary (entry :: rest) → False := by
  rintro entry rest rfl
  cases h

theorem assignments_of_isIgnored (h : entry.isIgnored = true) :
    entry.assignments encoder = .ok [] := by
  rw [isIgnored, Bool.and_eq_true, decide_eq_true_eq] at h
  rw [assignments, Operand.assignments_of_not_filled _ (not_filled_of_isNil h.1), if_pos h.1, h.2]
  rfl

theorem removals_of_isIgnored (h : entry.isIgnored = true) : entry.removals = [] := by
  rw [isIgnored, Bool.and_eq_true, decide_eq_true_eq] at h
  rw [removals, Operand.removals_of_not_filled _ (not_filled_of_isNil h.1), h.2]
  simp

theorem encode_of_isNil {operand : Operand} (h : operand.isNil = true) :
    operand.encode encoder = .ok .null := by
  cases operand with
  | null => rfl
  | bind bound =>
    cases bound with
    | value v =>
      cases v with
      | null => rfl
      | _ => cases h
    | _ => cases h
  | _ => cases h

theorem encode_of_isIgnored (h : entry.isIgnored = true) :
    entry.operand.encode encoder = .ok .null :=
  encode_of_isNil (Bool.and_eq_true_iff.mp h).1

end ChangeEntry

/-- The update of one operator tells which fields the operator has. -/
theorem eq_of_nonEmpty_operatorFields {operator : String} {fields others : Document}
    (h : nonEmpty (operatorFields operator fields) = nonEmpty (operatorFields operator others)) :
    fields = others := by
  cases fields with
  | nil =>
    cases others with
    | nil => rfl
    | cons => cases h
  | cons =>
    cases others with
    | nil => cases h
    | cons =>
      cases h
      rfl

namespace Changes

variable {encoder : Encoder} {operation : UpdateOperation} {entries : List ChangeEntry}
  {changes : Changes}

theorem removals_filter (entries : List ChangeEntry) :
    (entries.filter fun entry => !entry.isIgnored).flatMap ChangeEntry.removals =
      entries.flatMap ChangeEntry.removals := by
  induction entries with
  | nil => rfl
  | cons entry rest ih =>
    cases hignored : entry.isIgnored with
    | false => rw [List.filter_cons_of_pos (by simp [hignored]), List.flatMap_cons,
        List.flatMap_cons, ih]
    | true =>
      rw [List.filter_cons_of_neg (by simp [hignored]), ih, List.flatMap_cons,
        ChangeEntry.removals_of_isIgnored hignored, List.nil_append]

theorem setUpdate_eq_map (encoder : Encoder) (entries : List ChangeEntry) :
    setUpdate encoder entries =
      (fun assigned => nonEmpty (operatorFields "$set" (Document.ofList assigned) ++
        operatorFields "$unset" (Document.ofList ((entries.flatMap ChangeEntry.removals).map
          fun path => (path, .null))))) <$>
        (List.flatten <$> entries.mapM (·.assignments encoder)) := by
  rw [Functor.map_map]
  exact bind_pure_comp _ _

/-- Neither walk of an update of assignments and removals makes anything of an ignored entry. -/
theorem setUpdate_filter (encoder : Encoder) (entries : List ChangeEntry) :
    setUpdate encoder (entries.filter fun entry => !entry.isIgnored) =
      setUpdate encoder entries := by
  have hassigned : List.flatten <$>
      (entries.filter fun entry => !entry.isIgnored).mapM (·.assignments encoder) =
        List.flatten <$> entries.mapM (·.assignments encoder) := by
    refine flatten_mapM_filter fun entry _ hdropped => ?_
    exact ChangeEntry.assignments_of_isIgnored (by simpa using hdropped)
  rw [setUpdate_eq_map, setUpdate_eq_map, removals_filter, hassigned]

/-- An array operation writes a field for every entry. -/
theorem arrayUpdate_eq_ok {compiled : Option Document}
    (h : arrayUpdate encoder operation entries = .ok compiled) :
    ∃ fields : List (String × Value),
      compiled = nonEmpty (operatorFields operation.operator (Document.ofList fields)) ∧
        fields.map Prod.fst = entries.map fun entry => entry.key.storageName := by
  obtain ⟨fields, hfields, hcompiled⟩ := bind_eq_ok.mp h
  refine ⟨fields, (Except.ok.inj hcompiled).symm, ?_⟩
  clear h hcompiled
  induction mapM_eq_ok.mp hfields with
  | nil => rfl
  | cons hfirst hrest ih =>
    obtain ⟨value, -, hfield⟩ := bind_eq_ok.mp hfirst
    cases hfield
    rw [List.map_cons, List.map_cons, ih (mapM_eq_ok.mpr hrest)]

/-- An array operation does not look at what nil means for its entries. -/
theorem arrayUpdate_onNil (encoder : Encoder) (operation : UpdateOperation)
    (entries : List ChangeEntry) (onNil : ChangeEntry → NilPolicy) :
    arrayUpdate encoder operation (entries.map fun entry => { entry with onNil := onNil entry }) =
      arrayUpdate encoder operation entries := by
  unfold arrayUpdate
  rw [List.mapM_map]
  rfl

/-- An ignored entry is not what an array operation fails on. -/
theorem arrayUpdate_filter_eq_error {failure : CompileError}
    (h : arrayUpdate encoder operation entries = .error failure) :
    arrayUpdate encoder operation (entries.filter fun entry => !entry.isIgnored) =
      .error failure := by
  unfold arrayUpdate at h ⊢
  generalize hstep : (fun entry : ChangeEntry => _) = step at h ⊢
  have hdropped : ∀ entry ∈ entries, (!entry.isIgnored) = false →
      ∃ field, step entry = .ok field := by
    intro entry _ hignored
    have hencode : entry.operand.encode encoder = .ok .null :=
      ChangeEntry.encode_of_isIgnored (by simpa using hignored)
    rw [← hstep]
    simp only [hencode]
    exact ⟨_, rfl⟩
  rcases hfields : entries.mapM step with failure' | fields
  · rw [hfields] at h
    cases h
    rw [mapM_filter_eq_error hdropped hfields]
    rfl
  · rw [hfields] at h
    cases h

/-- An array operation with an ignored entry, under a name that no other entry has, differs from
    the operation without it. -/
theorem isIgnored_eq_false_of_arrayUpdate {compiled : Option Document}
    (hnames : ∀ ignored ∈ entries, ignored.isIgnored = true → ∀ kept ∈ entries,
      kept.isIgnored = false → kept.key.storageName ≠ ignored.key.storageName)
    (hall : arrayUpdate encoder operation entries = .ok compiled)
    (hkept : arrayUpdate encoder operation (entries.filter fun entry => !entry.isIgnored) =
      .ok compiled) :
    ∀ entry ∈ entries, entry.isIgnored = false := by
  obtain ⟨fields, hfields, hfieldNames⟩ := arrayUpdate_eq_ok hall
  obtain ⟨others, hothers, hotherNames⟩ := arrayUpdate_eq_ok hkept
  have heq : Document.ofList fields = Document.ofList others :=
    eq_of_nonEmpty_operatorFields (hfields.symm.trans hothers)
  intro ignored hmem
  by_contra hnot
  have hignored : ignored.isIgnored = true := by simpa using hnot
  have hname : ignored.key.storageName ∈ (Document.ofList fields).names := by
    rw [Document.mem_names_ofList, hfieldNames]
    exact List.mem_map_of_mem hmem
  rw [heq, Document.mem_names_ofList, hotherNames] at hname
  obtain ⟨kept, hkept, hsame⟩ := List.mem_map.mp hname
  obtain ⟨hkeptMem, hkeptNot⟩ := List.mem_filter.mp hkept
  exact hnames ignored hmem hignored kept hkeptMem (by simpa using hkeptNot) hsame

/-- Assignments and removals are the same without the ignored entries. -/
theorem update_withoutIgnored_of_set (hset : changes.operation = .set) :
    changes.withoutIgnored.update encoder = changes.update encoder := by
  rw [update, update, if_pos hset, if_pos (by exact hset)]
  exact setUpdate_filter encoder changes.entries

/-- To leave out the entries that are to leave their fields as they are, under names of their own,
    changes nothing for assignments and removals, nothing where there is no such entry, and nothing
    where the update fails to compile; everywhere else it changes the update. -/
theorem update_withoutIgnored_eq_iff
    (hnames : changes.operation ≠ .set → ∀ ignored ∈ changes.entries, ignored.isIgnored = true →
      ∀ kept ∈ changes.entries, kept.isIgnored = false →
        kept.key.storageName ≠ ignored.key.storageName) :
    changes.withoutIgnored.update encoder = changes.update encoder ↔
      changes.operation = .set ∨ (∀ entry ∈ changes.entries, entry.isIgnored = false) ∨
        ∃ failure, changes.update encoder = .error failure := by
  constructor
  · intro heq
    by_cases hset : changes.operation = .set
    · exact .inl hset
    · rw [update, update, if_neg hset, if_neg (by exact hset)] at heq
      rw [update, if_neg hset]
      cases hcompiled : arrayUpdate encoder changes.operation changes.entries with
      | error failure => exact .inr (.inr ⟨failure, rfl⟩)
      | ok compiled =>
        exact .inr (.inl (isIgnored_eq_false_of_arrayUpdate (hnames hset) hcompiled
          (heq.trans hcompiled)))
  · rintro (hset | hnone | ⟨failure, hfailure⟩)
    · exact update_withoutIgnored_of_set hset
    · have hself : changes.withoutIgnored = changes := by
        rw [withoutIgnored, List.filter_eq_self.mpr fun entry hmem => by simp [hnone entry hmem]]
      rw [hself]
    · by_cases hset : changes.operation = .set
      · exact update_withoutIgnored_of_set hset
      · rw [hfailure]
        rw [update, if_neg hset] at hfailure
        rw [update, if_neg (by exact hset)]
        exact arrayUpdate_filter_eq_error hfailure

/-- A push with a nil value that is to be passed over pushes a null. -/
theorem update_withoutIgnored_ne_tags :
    Changes.update .standard ⟨.push, [⟨.name "tags", .null, .ignore⟩,
      ⟨.name "scores", .bind (.value (.int32 7)), .ignore⟩]⟩ =
        .ok (some [("$push", .document [("tags", .null), ("scores", .int32 7)])]) ∧
    (Changes.withoutIgnored ⟨.push, [⟨.name "tags", .null, .ignore⟩,
      ⟨.name "scores", .bind (.value (.int32 7)), .ignore⟩]⟩).update .standard ≠
        Changes.update .standard ⟨.push, [⟨.name "tags", .null, .ignore⟩,
          ⟨.name "scores", .bind (.value (.int32 7)), .ignore⟩]⟩ := by
  generalize hchanges : Changes.mk _ _ = changes
  have hupdate : changes.update .standard =
      .ok (some [("$push", .document [("tags", .null), ("scores", .int32 7)])]) := by
    subst hchanges
    rfl
  have hnames : changes.operation ≠ .set → ∀ ignored ∈ changes.entries,
      ignored.isIgnored = true → ∀ kept ∈ changes.entries, kept.isIgnored = false →
        kept.key.storageName ≠ ignored.key.storageName := by
    subst hchanges
    decide
  refine ⟨hupdate, fun heq => ?_⟩
  rcases (update_withoutIgnored_eq_iff hnames).mp heq with hset | hnone | ⟨failure, hfailure⟩
  · subst hchanges
    cases hset
  · have hignored := hnone ⟨.name "tags", .null, .ignore⟩ (by simp [← hchanges])
    cases hignored
  · rw [hupdate] at hfailure
    cases hfailure

end Changes

end DocQuery
