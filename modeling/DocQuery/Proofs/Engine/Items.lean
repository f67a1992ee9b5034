import DocQuery.Proofs.Engine.Update
import DocQuery.Proofs.Value.Order

/-!
# Items of arrays

Adding items to an array appends those that it lacks, and removing items keeps the others.  Both go
by the equality of values, which is not transitive: an item that is added equals no item before it,
but two listed items that equal a third one need not equal each other.  Either update leaves nothing
to do for a second one.
-/

namespace DocQuery

namespace Update

/-- What adding the items of a list appends to an array: the items that equal none of the array and
    no appended one before them. -/
def newItems (items : List Value) : List Value → List Value
  | [] => []
  | value :: rest =>
      if items.any fun other => other.equal value then newItems items rest
      else value :: newItems (items ++ [value]) rest

theorem foldl_addDistinct (items list : List Value) :
    list.foldl addDistinct items = items ++ newItems items list := by
  induction list generalizing items with
  | nil => exact (List.append_nil items).symm
  | cons value rest ih =>
    rw [List.foldl_cons, ih, addDistinct, newItems]
    split
    · rfl
    · rw [List.append_assoc, List.singleton_append]

theorem newItems_sublist (items list : List Value) : (newItems items list).Sublist list := by
  induction list generalizing items with
  | nil => exact .slnil
  | cons value rest ih =>
    rw [newItems]
    split
    · exact (ih items).cons value
    · exact (ih _).cons_cons value

/-- An appended item equals no item before it. -/
theorem equal_of_newItems {items list front back : List Value} {value earlier : Value}
    (h : newItems items list = front ++ value :: back) (hearlier : earlier ∈ items ++ front) :
    earlier.equal value = false := by
  induction list generalizing items front with
  | nil => simp [newItems] at h
  | cons first rest ih =>
    rw [newItems] at h
    split at h
    · exact ih h hearlier
    · rename_i hany
      cases front with
      | nil =>
        obtain ⟨rfl, -⟩ := List.cons.inj h
        rw [List.append_nil] at hearlier
        exact Bool.eq_false_iff.mpr fun hequal =>
          hany (List.any_eq_true.mpr ⟨earlier, hearlier, hequal⟩)
      | cons head front =>
        obtain ⟨rfl, hrest⟩ := List.cons.inj h
        refine ih hrest ?_
        rwa [List.append_assoc, List.singleton_append]

/-- Every listed item equals one that was there or is appended. -/
theorem exists_equal_newItems (items : List Value) {list : List Value} {value : Value}
    (h : value ∈ list) : ∃ item ∈ items ++ newItems items list, item.equal value = true := by
  induction list generalizing items with
  | nil => cases h
  | cons first rest ih =>
    rw [newItems]
    split
    · rename_i hany
      rcases List.mem_cons.mp h with rfl | hrest
      · obtain ⟨item, hitem, hequal⟩ := List.any_eq_true.mp hany
        exact ⟨item, List.mem_append_left _ hitem, hequal⟩
      · exact ih items hrest
    · rcases List.mem_cons.mp h with rfl | hrest
      · exact ⟨value, by simp, Value.equal_self value⟩
      · obtain ⟨item, hitem, hequal⟩ := ih (items ++ [first]) hrest
        rw [List.append_assoc, List.singleton_append] at hitem
        exact ⟨item, hitem, hequal⟩

theorem newItems_eq_nil {items list : List Value}
    (h : ∀ value ∈ list, ∃ item ∈ items, item.equal value = true) : newItems items list = [] := by
  induction list with
  | nil => rfl
  | cons value rest ih =>
    obtain ⟨hvalue, hrest⟩ := List.forall_mem_cons.mp h
    rw [newItems, if_pos (List.any_eq_true.mpr hvalue), ih hrest]

/-- The items of an array that equal no listed one. -/
def keptItems (items list : List Value) : List Value :=
  items.filter fun item => list.all fun value => !item.equal value

theorem keptItems_keptItems (items list : List Value) :
    keptItems (keptItems items list) list = keptItems items list := by
  simp [keptItems, List.filter_filter]

variable {doc : Document} {path : String} {items : List Value}

theorem applyField_addToSet (hitems : doc.itemsAt? path = some items) (list : List Value) :
    applyField "$addToSet" doc (path, .document [("$each", .array list)]) =
      .ok (doc.setPath path (.array (items ++ newItems items list))) := by
  show append doc path _ true = _
  rw [append, arrayAt_of_itemsAt? hitems]
  show Except.ok (doc.setPath path (.array (list.foldl addDistinct items))) = _
  rw [foldl_addDistinct]

theorem applyField_pullAll_of_none (h : doc.getPath? path = none) (list : List Value) :
    applyField "$pullAll" doc (path, .array list) = .ok doc := by
  show pullAll doc path (.array list) = _
  rw [pullAll, h]
  rfl

theorem applyField_pullAll (h : doc.getPath? path = some (.array items)) (list : List Value) :
    applyField "$pullAll" doc (path, .array list) =
      .ok (doc.setPath path (.array (keptItems items list))) := by
  show pullAll doc path (.array list) = _
  rw [pullAll, arrayAt_eq, h]
  have hkept : (fun item : Value => !list.any fun other => item.equal other) =
      fun item => list.all fun value => !item.equal value := by
    funext item
    exact List.not_any_eq_all_not
  rw [keptItems, ← hkept]
  rfl

/-- The update that adds the items of a list to the array at a path. -/
def adding (path : String) (list : List Value) : Document :=
  [("$addToSet", .document [(path, .document [("$each", .array list)])])]

/-- The update that removes the items of a list from the array at a path. -/
def removing (path : String) (list : List Value) : Document :=
  [("$pullAll", .document [(path, .array list)])]

end Update

namespace Document

open Update

variable {doc : Document} {path : String} {items : List Value}

theorem getPath?_of_itemsAt? (h : doc.itemsAt? path = some items) :
    doc.getPath? path = none ∧ items = [] ∨ doc.getPath? path = some (.array items) := by
  unfold itemsAt? at h
  split at h
  · rename_i hpath
    cases h
    exact .inl ⟨hpath, rfl⟩
  · rename_i hpath
    cases h
    exact .inr hpath
  · cases h

/-- Adding items puts the new ones behind the array, and adding them again changes nothing. -/
theorem updated_adding (h : doc.itemsAt? path = some items) (list : List Value) :
    ∃ after, doc.updated (adding path list) = .ok after ∧
      after.getPath? path = some (.array (items ++ newItems items list)) ∧
      after.updated (adding path list) = .ok after := by
  have hread : (doc.setPath path (.array (items ++ newItems items list))).getPath? path =
      some (.array (items ++ newItems items list)) := getPath?_setPath_self _ _ _
  have hagain := @applyField_addToSet _ path (items ++ newItems items list)
    (by rw [itemsAt?, hread]) list
  refine ⟨_, (doc.updated_single _ _ _).trans (applyField_addToSet h list), hread, ?_⟩
  -- Each listed item is there now, so the array is written over itself.
  rw [newItems_eq_nil fun _ => exists_equal_newItems items, List.append_nil,
    setPath_of_getPath? hread] at hagain
  exact (updated_single _ _ _ _).trans hagain

/-- Removing items keeps the others of the array, and removing them again changes nothing. -/
theorem updated_removing (h : doc.itemsAt? path = some items) (list : List Value) :
    ∃ after, doc.updated (removing path list) = .ok after ∧
      after.getPath? path = (doc.getPath? path).map (fun _ => .array (keptItems items list)) ∧
      after.updated (removing path list) = .ok after := by
  rcases getPath?_of_itemsAt? h with ⟨hnone, -⟩ | hsome
  · have hupdated : doc.updated (removing path list) = .ok doc :=
      (doc.updated_single _ _ _).trans (applyField_pullAll_of_none hnone list)
    exact ⟨doc, hupdated, by rw [hnone]; rfl, hupdated⟩
  · have hread : (doc.setPath path (.array (keptItems items list))).getPath? path =
        some (.array (keptItems items list)) := getPath?_setPath_self _ _ _
    have hagain := applyField_pullAll hread list
    refine ⟨_, (doc.updated_single _ _ _).trans (applyField_pullAll hsome list), ?_, ?_⟩
    · rw [hread, hsome]
      rfl
    · rw [keptItems_keptItems, setPath_of_getPath? hread] at hagain
      exact (updated_single _ _ _ _).trans hagain

/-- Items that are added to and removed from the array at a path, or from nothing.  Adding a list
    leaves the array in front and appends listed items in their order, none of them equal to an item
    before it, until every listed item equals one of the array; removing a list keeps the items that
    equal no listed one.  Neither is seen apart from the path, and doing either again changes
    nothing. -/
theorem items_of_updates (h : doc.itemsAt? path = some items) (list : List Value) :
    (∃ after appended, doc.updated (adding path list) = .ok after ∧
      after.getPath? path = some (.array (items ++ appended)) ∧ appended.Sublist list ∧
      (∀ front value back, appended = front ++ value :: back →
        ∀ earlier ∈ items ++ front, earlier.equal value = false) ∧
      (∀ value ∈ list, ∃ item ∈ items ++ appended, item.equal value = true) ∧
      (∀ other, Path.Apart path other → after.getPath? other = doc.getPath? other) ∧
      after.updated (adding path list) = .ok after) ∧
    ∃ after, doc.updated (removing path list) = .ok after ∧
      after.getPath? path = (doc.getPath? path).map (fun _ =>
        .array (items.filter fun item => list.all fun value => !item.equal value)) ∧
      (∀ other, Path.Apart path other → after.getPath? other = doc.getPath? other) ∧
      after.updated (removing path list) = .ok after := by
  obtain ⟨added, hadded, hread, hagain⟩ := updated_adding h list
  obtain ⟨removed, hremoved, hkept, hsettled⟩ := updated_removing h list
  refine ⟨⟨added, newItems items list, hadded, hread, newItems_sublist items list, ?_, ?_, ?_,
    hagain⟩, removed, hremoved, hkept, ?_, hsettled⟩
  · intro front value back hsplit earlier hearlier
    exact equal_of_newItems hsplit hearlier
  · intro value hvalue
    exact exists_equal_newItems items hvalue
  · intro other hapart
    exact getPath?_updated_of_apart hadded (List.forall_mem_singleton.mpr hapart)
  · intro other hapart
    exact getPath?_updated_of_apart hremoved (List.forall_mem_singleton.mpr hapart)

/-- Tags in a nested document: one that is there as an integer of another width, and one that is
    listed twice. -/
theorem items_of_updates_tags :
    let tags : List Value := [.int32 1, .string "a"]
    let list : List Value := [.int64 1, .string "b", .string "b"]
    let doc : Document := [("_id", .int32 1),
      ("profile", .document [("name", .string "Ada"), ("tags", .array tags)])]
    doc.itemsAt? "profile.tags" = some tags ∧
      (∃ after appended, doc.updated (adding "profile.tags" list) = .ok after ∧
        after.getPath? "profile.tags" = some (.array (tags ++ appended)) ∧ appended.Sublist list ∧
        (∀ value ∈ list, ∃ item ∈ tags ++ appended, item.equal value = true) ∧
        after.getPath? "profile.name" = some (.string "Ada") ∧
        after.updated (adding "profile.tags" list) = .ok after) ∧
      ∃ after, doc.updated (removing "profile.tags" list) = .ok after ∧
        after.getPath? "profile.tags" = some (.array [.string "a"]) ∧
        after.getPath? "profile.name" = some (.string "Ada") := by
  intro tags list doc
  have hitems : doc.itemsAt? "profile.tags" = some tags := rfl
  have hapart : Path.Apart "profile.tags" "profile.name" := by decide
  have hname : doc.getPath? "profile.name" = some (.string "Ada") := rfl
  obtain ⟨⟨added, appended, hadded, hread, hsublist, -, hcomplete, hothers, hagain⟩, removed,
    hremoved, hkept, hrest, -⟩ := items_of_updates hitems list
  exact ⟨hitems,
    ⟨added, appended, hadded, hread, hsublist, hcomplete, (hothers _ hapart).trans hname, hagain⟩,
    removed, hremoved, hkept.trans rfl, (hrest _ hapart).trans hname⟩

end Document

end DocQuery
