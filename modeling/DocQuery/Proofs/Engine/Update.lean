import DocQuery.Compile.Update
import DocQuery.Engine.Update
import DocQuery.Proofs.Engine.Slot

/-!
# What updates do

Assignments and removals are made one after the other, path by path.  Whatever the operators of an
update are, it is not seen apart from the paths that it names.  Items are appended to the array at a
path, which is empty where there is nothing.
-/

namespace DocQuery

namespace Update

theorem applyOperator_set (doc : Document) (fields : List (String × Value)) :
    applyOperator doc ("$set", .document fields) = .ok (Document.setPaths doc fields) :=
  List.foldlM_pure

theorem applyOperator_unset (doc : Document) (paths : List String) :
    applyOperator doc ("$unset", .document (paths.map fun path => (path, .null))) =
      .ok (Document.erasePaths doc paths) := by
  show (paths.map fun path => (path, Value.null)).foldlM (applyField "$unset") doc = _
  rw [List.foldlM_map]
  exact List.foldlM_pure

end Update

/-- An update of one operator at one path. -/
theorem Document.updated_single (doc : Document) (operator path : String) (argument : Value) :
    doc.updated [(operator, .document [(path, argument)])] =
      Update.applyField operator doc (path, argument) := by
  rw [updated, List.foldlM_cons]
  show (Update.applyOperator doc _ >>= pure) = _
  rw [bind_pure, Update.applyOperator, List.foldlM_cons]
  exact bind_pure _

/-- An operator without fields, which is left out, would change nothing. -/
theorem foldlM_operatorFields (doc : Document) (operator : String) (fields : Document) :
    (operatorFields operator fields).foldlM Update.applyOperator doc =
      Update.applyOperator doc (operator, .document fields) := by
  unfold operatorFields
  split
  · rename_i hempty
    rw [List.isEmpty_iff.mp hempty]
    rfl
  · rw [List.foldlM_cons]
    exact bind_pure _

/-- An update of assignments and removals makes the assignments and then the removals. -/
theorem Document.updated_set_unset (doc : Document) (fields : List (String × Value))
    (paths : List String) :
    doc.updated (operatorFields "$set" fields ++
        operatorFields "$unset" (paths.map fun path => (path, .null))) =
      .ok ((doc.setPaths fields).erasePaths paths) := by
  rw [updated, List.foldlM_append, foldlM_operatorFields, Update.applyOperator_set]
  show (operatorFields "$unset" _).foldlM Update.applyOperator (doc.setPaths fields) = _
  rw [foldlM_operatorFields, Update.applyOperator_unset]

/-! ## Edited paths -/

namespace Update

variable {doc update after : Document} {op path : String} {argument : Value}

/-- The paths that an update names, operator by operator. -/
def paths (update : Document) : List String :=
  update.flatMap fun operator => (operator.2.asDocument?.getD []).names

/-- Whatever an operator does at a path: it leaves the document as it is, writes a value there or
    erases what is there. -/
theorem applyField_eq_ok (h : applyField op doc (path, argument) = .ok after) :
    after = doc ∨ (∃ value, after = doc.setPath path value) ∨ after = doc.erasePath path := by
  have happend : ∀ {distinct}, append doc path argument distinct = .ok after →
      ∃ value, after = doc.setPath path value := by
    intro distinct h
    obtain ⟨added, -, h⟩ := bind_eq_ok.mp h
    obtain ⟨slot, hslot, h⟩ := bind_eq_ok.mp h
    rw [← pure_eq_ok.mp h, fill_of_arrayAt hslot]
    exact ⟨_, rfl⟩
  unfold applyField at h
  dsimp only at h
  split at h
  · cases h
    exact .inr (.inl ⟨argument, rfl⟩)
  split at h
  · cases h
    exact .inr (.inr rfl)
  split at h
  · unfold increment at h
    split at h
    · cases h
      exact .inr (.inl ⟨_, rfl⟩)
    · cases h
  split at h
  · exact .inr (.inl (happend h))
  split at h
  · exact .inr (.inl (happend h))
  split at h
  · unfold pullAll at h
    split at h
    · split at h
      · cases h
        exact .inl rfl
      · obtain ⟨slot, hslot, h⟩ := bind_eq_ok.mp h
        rw [← pure_eq_ok.mp h, fill_of_arrayAt hslot]
        exact .inr (.inl ⟨_, rfl⟩)
    · cases h
  · split at h <;> cases h

theorem getPath?_applyField_of_apart (h : applyField op doc (path, argument) = .ok after)
    {other : String} (hapart : Path.Apart path other) :
    after.getPath? other = doc.getPath? other := by
  rcases applyField_eq_ok h with rfl | ⟨value, rfl⟩ | rfl
  · rfl
  · exact Document.getPath?_setPath_of_apart doc hapart value
  · exact Document.getPath?_erasePath_of_apart doc hapart

theorem getPath?_applyOperator_of_apart {operator : String × Value}
    (h : applyOperator doc operator = .ok after) {other : String}
    (hapart : ∀ path ∈ (operator.2.asDocument?.getD []).names, Path.Apart path other) :
    after.getPath? other = doc.getPath? other := by
  unfold applyOperator at h
  split at h
  · rename_i op fields
    refine @foldlM_invariant _ _ _ _
      (fun now : Document => now.getPath? other = doc.getPath? other) _ _ _ ?_ rfl h
    intro field hfield before next hbefore hnext
    have hpath := hapart field.1 (List.mem_map_of_mem hfield)
    exact (getPath?_applyField_of_apart hnext hpath).trans hbefore
  · cases h

end Update

/-- An update is not seen at a path that is apart from all paths that it names. -/
theorem Document.getPath?_updated_of_apart {doc update after : Document}
    (h : doc.updated update = .ok after) {other : String}
    (hapart : ∀ path ∈ Update.paths update, Path.Apart path other) :
    after.getPath? other = doc.getPath? other := by
  refine @foldlM_invariant _ _ _ _
    (fun now : Document => now.getPath? other = doc.getPath? other) _ _ _ ?_ rfl h
  intro operator hoperator before next hbefore hnext
  refine (Update.getPath?_applyOperator_of_apart hnext ?_).trans hbefore
  intro path hpath
  exact hapart path (List.mem_flatMap.mpr ⟨operator, hoperator, hpath⟩)

/-! ## Arrays -/

/-- The items of the array at a path.  There are none where there is nothing, and the path has no
    items where there is any other value. -/
def Document.itemsAt? (doc : Document) (path : String) : Option (List Value) :=
  match doc.getPath? path with
  | none => some []
  | some (.array items) => some items
  | some _ => none

namespace Update

variable {doc : Document} {path : String} {items added : List Value} {argument : Value}

theorem arrayAt_of_itemsAt? (h : doc.itemsAt? path = some items) :
    arrayAt doc path = .ok (slotOf doc path items) := by
  unfold Document.itemsAt? at h
  rw [arrayAt_eq]
  cases hvalue : doc.getPath? path with
  | none =>
    rw [hvalue] at h
    cases h
    rfl
  | some value =>
    rw [hvalue] at h
    cases value with
    | array items =>
      cases h
      rfl
    | _ => cases h

/-- A push puts the items that it appends behind those at its path. -/
theorem applyField_push (hitems : doc.itemsAt? path = some items)
    (hadded : appendedItems argument = .ok added) :
    applyField "$push" doc (path, argument) = .ok (doc.setPath path (.array (items ++ added))) := by
  show append doc path argument false = _
  rw [append, hadded, arrayAt_of_itemsAt? hitems]
  rfl

end Update

end DocQuery
