import DocQuery.Engine.Update
import DocQuery.Proofs.Document.Path
import DocQuery.Proofs.Run

/-!
# Slots of arrays

Behind the installation of an empty array the way to it is walked anew.  The walk goes where reading
goes, so it ends at the array that is read at the path, and filling its slot is writing at the path:
no update fails because an array is not reached.
-/

namespace DocQuery

namespace Update

variable {doc : Document} {path : String} {items : List Value}

/-- The slot at a path, with the items that are there. -/
def slotOf (doc : Document) (path : String) (items : List Value) : Slot :=
  ⟨items, fun others => doc.setPath path (.array others)⟩

/-- The way to an array that is read at a path ends there, and filling its slot is writing there. -/
theorem slotAt?_of_getAt? {p : Path} (h : doc.getAt? p = some (.array items)) :
    slotAt? doc p = some ⟨items, fun others => doc.setAt p (.array others)⟩ := by
  induction p generalizing doc with
  | nil => cases h
  | cons name rest ih =>
    by_cases hrest : rest = []
    · subst hrest
      have hname : doc.get? name = some (.array items) := h
      rw [slotAt?, hname]
      rfl
    · rw [Document.getAt?_cons doc name hrest] at h
      have hfill : (fun others => doc.setAt (name :: rest) (.array others)) = fun others =>
          doc.insert name (.document ((doc.innerAt name).setAt rest (.array others))) := by
        funext others
        exact Document.setAt_cons doc name hrest (.array others)
      rw [slotAt?, Document.get?_of_getAt?_innerAt h, hfill]
      · dsimp only
        rw [ih h]
        rfl
      · exact hrest

theorem reachArray_of_getPath? (h : doc.getPath? path = some (.array items)) :
    reachArray doc path = .ok (slotOf doc path items) := by
  rw [reachArray, slotAt?_of_getAt? h]
  rfl

/-- An array that has just been installed is reached, and what is written into its slot is written
    into the document from before. -/
theorem reachArray_setPath (doc : Document) (path : String) :
    reachArray (doc.setPath path (.array [])) path = .ok (slotOf doc path []) := by
  have hfill : slotOf (doc.setPath path (.array [])) path [] = slotOf doc path [] := by
    rw [slotOf, slotOf, Slot.mk.injEq]
    exact ⟨rfl, funext fun others => Document.setPath_setPath_self doc path _ (.array others)⟩
  rw [reachArray_of_getPath? (Document.getPath?_setPath_self doc path _), hfill]

/-- What is read at a path decides what its slot is, or that it has none. -/
theorem arrayAt_eq (doc : Document) (path : String) :
    arrayAt doc path =
      match doc.getPath? path with
      | none | some .null => .ok (slotOf doc path [])
      | some (.array items) => .ok (slotOf doc path items)
      | some other => .error (.notAnArray path other) := by
  rw [arrayAt, installArray]
  cases hvalue : doc.getPath? path with
  | none => exact reachArray_setPath doc path
  | some value =>
    cases value with
    | null => exact reachArray_setPath doc path
    | array items => exact reachArray_of_getPath? hvalue
    | _ => rfl

/-- Filling a slot is writing at its path. -/
theorem fill_of_arrayAt {slot : Slot} (h : arrayAt doc path = .ok slot) (others : List Value) :
    slot.fill others = doc.setPath path (.array others) := by
  rw [arrayAt_eq] at h
  split at h <;> cases h <;> rfl

theorem arrayAt_ne_unreachable (doc : Document) (path place : String) :
    arrayAt doc path ≠ .error (.unreachable place) := by
  intro h
  rw [arrayAt_eq] at h
  split at h <;> cases h

/-- An array is reached at every path at which there is an array, nothing or null, where an empty
    array is installed first; filling its slot is writing at the path.  Any other value at the path is
    reported as no array. -/
theorem arrayAt_outcome (doc : Document) (path : String) :
    (∀ place, arrayAt doc path ≠ .error (.unreachable place)) ∧
      match doc.getPath? path with
      | none | some .null =>
          ∃ slot, arrayAt doc path = .ok slot ∧ slot.items = [] ∧
            ∀ others, slot.fill others = doc.setPath path (.array others)
      | some (.array items) =>
          ∃ slot, arrayAt doc path = .ok slot ∧ slot.items = items ∧ slot.fill items = doc ∧
            ∀ others, slot.fill others = doc.setPath path (.array others)
      | some other => arrayAt doc path = .error (.notAnArray path other) := by
  refine ⟨arrayAt_ne_unreachable doc path, ?_⟩
  rw [arrayAt_eq]
  cases hvalue : doc.getPath? path with
  | none => exact ⟨_, rfl, rfl, fun _ => rfl⟩
  | some value =>
    cases value with
    | null => exact ⟨_, rfl, rfl, fun _ => rfl⟩
    | array items => exact ⟨_, rfl, rfl, Document.setPath_of_getPath? hvalue, fun _ => rfl⟩
    | _ => rfl

/-! ## Updates -/

theorem append_ne_unreachable (doc : Document) (path : String) (argument : Value) (distinct : Bool)
    (place : String) : append doc path argument distinct ≠ .error (.unreachable place) := by
  intro h
  rcases bind_eq_error.mp h with hadded | ⟨added, -, h⟩
  · unfold appendedItems at hadded
    split at hadded
    · split at hadded <;> cases hadded
    · cases hadded
  · rcases bind_eq_error.mp h with hslot | ⟨slot, -, h⟩
    · exact arrayAt_ne_unreachable doc path place hslot
    · cases h

theorem pullAll_ne_unreachable (doc : Document) (path : String) (argument : Value) (place : String) :
    pullAll doc path argument ≠ .error (.unreachable place) := by
  intro h
  unfold pullAll at h
  split at h
  · split at h
    · cases h
    · rcases bind_eq_error.mp h with hslot | ⟨slot, -, h⟩
      · exact arrayAt_ne_unreachable doc path place hslot
      · cases h
  · cases h

theorem applyField_ne_unreachable (op : String) (doc : Document) (field : String × Value)
    (place : String) : applyField op doc field ≠ .error (.unreachable place) := by
  obtain ⟨path, argument⟩ := field
  intro h
  unfold applyField at h
  dsimp only at h
  split_ifs at h
  · unfold increment at h
    split at h <;> cases h
  · exact append_ne_unreachable _ _ _ _ _ h
  · exact append_ne_unreachable _ _ _ _ _ h
  · exact pullAll_ne_unreachable _ _ _ _ h
  · cases h
  · cases h

end Update

/-- No update fails because an array is not reached. -/
theorem Document.updated_ne_unreachable (doc update : Document) (place : String) :
    doc.updated update ≠ .error (.unreachable place) := by
  intro h
  obtain ⟨⟨op, argument⟩, -, before, hoperator⟩ := foldlM_eq_error h
  cases argument with
  | document fields =>
    obtain ⟨field, -, now, hfield⟩ := foldlM_eq_error hoperator
    exact Update.applyField_ne_unreachable op now field place hfield
  | _ => cases hoperator

end DocQuery
