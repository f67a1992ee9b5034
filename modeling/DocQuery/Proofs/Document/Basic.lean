import DocQuery.Document
import Mathlib.Data.List.Nodup

/-!
# Laws of documents

A name that is written again or erased forgets what was written under it, and fields of distinct
names are a document as they are.
-/

namespace DocQuery

namespace Document

theorem insert_insert_self (doc : Document) (key : String) (first second : Value) :
    insert (insert doc key first) key second = insert doc key second := by
  induction doc with
  | nil => simp [insert]
  | cons field rest ih =>
    obtain ⟨name, old⟩ := field
    by_cases hname : name = key
    · simp [insert, hname]
    · simp [insert, hname, ih]

theorem erase_insert_self (doc : Document) (key : String) (value : Value) :
    erase (insert doc key value) key = erase doc key := by
  unfold erase
  induction doc with
  | nil => simp [insert]
  | cons field rest ih =>
    obtain ⟨name, old⟩ := field
    by_cases hname : name = key
    · simp [insert, hname]
    · simpa [insert, hname] using ih

theorem insert_of_not_mem {doc : Document} {key : String} (h : key ∉ doc.names) (value : Value) :
    insert doc key value = doc ++ [(key, value)] := by
  induction doc with
  | nil => rfl
  | cons field rest ih =>
    have hname : field.1 ≠ key := fun heq => h (List.mem_cons.mpr (.inl heq.symm))
    have hrest : key ∉ names rest := fun hmem => h (List.mem_cons_of_mem _ hmem)
    rw [insert, if_neg hname, ih hrest, List.cons_append]

theorem insertAll_eq_append {doc : Document} {fields : List (String × Value)}
    (h : (doc.names ++ fields.map Prod.fst).Nodup) : insertAll doc fields = doc ++ fields := by
  induction fields generalizing doc with
  | nil => exact (List.append_nil doc).symm
  | cons field rest ih =>
    have hfield : field.1 ∉ doc.names := by
      intro hmem
      exact (List.nodup_append.mp h).2.2 _ hmem _ List.mem_cons_self rfl
    show insertAll (insert doc field.1 field.2) rest = doc ++ field :: rest
    rw [insert_of_not_mem hfield, ih, List.append_assoc, List.singleton_append]
    simpa [names] using h

/-- Fields of distinct names are a document as they are. -/
theorem ofList_eq_self {fields : List (String × Value)} (h : (fields.map Prod.fst).Nodup) :
    ofList fields = fields :=
  insertAll_eq_append h

/-- A name that is written with the value that it has leaves the document as it is. -/
theorem insert_of_get? {doc : Document} {key : String} {value : Value}
    (h : get? doc key = some value) : insert doc key value = doc := by
  induction doc with
  | nil => cases h
  | cons field rest ih =>
    obtain ⟨name, old⟩ := field
    by_cases hname : name = key
    · rw [get?, if_pos hname] at h
      cases h
      rw [insert, if_pos hname]
    · rw [get?, if_neg hname] at h
      rw [insert, if_neg hname, ih h]

theorem mem_of_get? {doc : Document} {key : String} {value : Value}
    (h : get? doc key = some value) : (key, value) ∈ doc := by
  induction doc with
  | nil => cases h
  | cons field rest ih =>
    obtain ⟨name, old⟩ := field
    by_cases hname : name = key
    · rw [get?, if_pos hname] at h
      cases h
      rw [hname]
      exact List.mem_cons_self
    · rw [get?, if_neg hname] at h
      exact List.mem_cons_of_mem _ (ih h)

/-- In a document of distinct names each field is read under its name. -/
theorem get?_of_mem {doc : Document} (h : doc.names.Nodup) {field : String × Value}
    (hfield : field ∈ doc) : get? doc field.1 = some field.2 := by
  induction doc with
  | nil => cases hfield
  | cons first rest ih =>
    obtain ⟨name, value⟩ := first
    obtain ⟨hname, hrest⟩ := List.nodup_cons.mp h
    rcases List.mem_cons.mp hfield with rfl | hfield
    · exact if_pos rfl
    · have hne : name ≠ field.1 := by
        rintro heq
        exact hname (List.mem_map.mpr ⟨field, hfield, heq.symm⟩)
      rw [get?, if_neg hne]
      exact ih hrest hfield

theorem has_iff {doc : Document} {key : String} :
    doc.has key = true ↔ ∃ value, (key, value) ∈ doc := by
  constructor
  · intro h
    obtain ⟨value, hvalue⟩ := Option.isSome_iff_exists.mp h
    exact ⟨value, mem_of_get? hvalue⟩
  · rintro ⟨value, hvalue⟩
    induction doc with
    | nil => cases hvalue
    | cons field rest ih =>
      obtain ⟨name, old⟩ := field
      by_cases hname : name = key
      · simp [has, get?, hname]
      · have hrest : (key, value) ∈ rest := by
          rcases List.mem_cons.mp hvalue with heq | hrest
          · exact (hname (congrArg Prod.fst heq).symm).elim
          · exact hrest
        rw [has, get?, if_neg hname]
        exact ih hrest

theorem has_insert_self (doc : Document) (key : String) (value : Value) :
    (insert doc key value).has key = true := by
  simp [has]

theorem has_insert {doc : Document} {key : String} (h : doc.has key = true) (name : String)
    (value : Value) : (insert doc name value).has key = true := by
  by_cases hname : key = name
  · rw [hname, has_insert_self]
  · rw [has, get?_insert_of_ne doc hname]
    exact h

/-- A field of a document that a name is written into is the written one or was there. -/
theorem mem_insert {doc : Document} {key : String} {value : Value} {field : String × Value}
    (h : field ∈ insert doc key value) : field = (key, value) ∨ field ∈ doc := by
  induction doc with
  | nil => exact .inl (List.mem_singleton.mp h)
  | cons first rest ih =>
    obtain ⟨name, old⟩ := first
    rw [insert] at h
    split at h
    · rename_i hname
      rcases List.mem_cons.mp h with rfl | hrest
      · exact .inl (by rw [hname])
      · exact .inr (List.mem_cons_of_mem _ hrest)
    · rcases List.mem_cons.mp h with rfl | hrest
      · exact .inr List.mem_cons_self
      · exact (ih hrest).imp_right (List.mem_cons_of_mem _)

theorem mem_insertAll {doc : Document} {fields : List (String × Value)} {field : String × Value}
    (h : field ∈ insertAll doc fields) : field ∈ doc ∨ field ∈ fields := by
  induction fields generalizing doc with
  | nil => exact .inl h
  | cons first rest ih =>
    have h : field ∈ insertAll (insert doc first.1 first.2) rest := h
    rcases ih h with hinserted | hrest
    · rcases mem_insert hinserted with rfl | hdoc
      · exact .inr List.mem_cons_self
      · exact .inl hdoc
    · exact .inr (List.mem_cons_of_mem _ hrest)

theorem insertAll_ne_nil {doc : Document} (h : doc ≠ []) (fields : List (String × Value)) :
    insertAll doc fields ≠ [] := by
  induction fields generalizing doc with
  | nil => exact h
  | cons field rest ih =>
    have hinsert : insert doc field.1 field.2 ≠ [] := by
      obtain ⟨⟨name, old⟩, others, rfl⟩ := List.exists_cons_of_ne_nil h
      rw [insert]
      split <;> exact List.cons_ne_nil _ _
    exact ih hinsert

theorem ofList_ne_nil {fields : List (String × Value)} (h : fields ≠ []) : ofList fields ≠ [] := by
  obtain ⟨field, rest, rfl⟩ := List.exists_cons_of_ne_nil h
  exact @insertAll_ne_nil [(field.1, field.2)] (List.cons_ne_nil _ _) rest

theorem names_insert_of_mem {doc : Document} {key : String} (h : key ∈ doc.names) (value : Value) :
    (insert doc key value).names = doc.names := by
  induction doc with
  | nil => cases h
  | cons field rest ih =>
    obtain ⟨name, old⟩ := field
    by_cases hname : name = key
    · simp [insert, names, hname]
    · have hrest : key ∈ names rest := by
        simpa [names, Ne.symm hname] using h
      simpa [insert, names, hname] using ih hrest

theorem nodup_names_insert {doc : Document} (h : doc.names.Nodup) (key : String) (value : Value) :
    (insert doc key value).names.Nodup := by
  by_cases hkey : key ∈ doc.names
  · rwa [names_insert_of_mem hkey]
  · rw [insert_of_not_mem hkey, names, List.map_append]
    refine List.nodup_append.mpr ⟨h, List.nodup_singleton _, ?_⟩
    rintro name hname other hother rfl
    rw [List.mem_singleton.mp hother] at hname
    exact hkey hname

theorem mem_names_insert {doc : Document} {key name : String} {value : Value} :
    name ∈ (insert doc key value).names ↔ name ∈ doc.names ∨ name = key := by
  by_cases hkey : key ∈ doc.names
  · rw [names_insert_of_mem hkey, or_iff_left_of_imp]
    rintro rfl
    exact hkey
  · rw [insert_of_not_mem hkey]
    simp [names]

theorem mem_names_insertAll {doc : Document} {fields : List (String × Value)} {name : String} :
    name ∈ (insertAll doc fields).names ↔ name ∈ doc.names ∨ name ∈ fields.map Prod.fst := by
  induction fields generalizing doc with
  | nil => simp [insertAll]
  | cons field rest ih =>
    show name ∈ (insertAll (insert doc field.1 field.2) rest).names ↔ _
    rw [ih, mem_names_insert, List.map_cons, List.mem_cons, or_assoc]

/-- A document of fields has the names of all of them. -/
theorem mem_names_ofList {fields : List (String × Value)} {name : String} :
    name ∈ (ofList fields).names ↔ name ∈ fields.map Prod.fst :=
  mem_names_insertAll.trans (or_iff_right List.not_mem_nil)

theorem nodup_names_erase {doc : Document} (h : doc.names.Nodup) (key : String) :
    (erase doc key).names.Nodup :=
  h.sublist (List.filter_sublist.map Prod.fst)

/-- A document of fields has no other fields. -/
theorem mem_ofList {fields : List (String × Value)} {field : String × Value}
    (h : field ∈ ofList fields) : field ∈ fields :=
  (mem_insertAll h).resolve_left List.not_mem_nil

/-! ## Several fields -/

theorem get?_append (first second : Document) (key : String) :
    get? (first ++ second) key = (get? first key).or (get? second key) := by
  induction first with
  | nil => simp
  | cons field rest ih =>
    obtain ⟨name, value⟩ := field
    by_cases hname : name = key
    · simp [get?, hname]
    · simpa [get?, hname] using ih

theorem get?_eq_none_iff {doc : Document} {key : String} :
    get? doc key = none ↔ key ∉ doc.names := by
  induction doc with
  | nil => simp [names]
  | cons field rest ih =>
    obtain ⟨name, value⟩ := field
    by_cases hname : name = key
    · simp [get?, names, hname]
    · simpa [get?, names, hname, Ne.symm hname] using ih

/-- Behind several fields a name has the last value among them, or else its old one. -/
theorem get?_insertAll (doc fields : Document) (key : String) :
    get? (insertAll doc fields) key = (get? fields.reverse key).or (get? doc key) := by
  induction fields generalizing doc with
  | nil => rfl
  | cons field rest ih =>
    obtain ⟨name, value⟩ := field
    show get? (insertAll (insert doc name value) rest) key = _
    rw [ih, List.reverse_cons, get?_append, Option.or_assoc]
    by_cases hname : key = name
    · subst hname
      simp [get?]
    · rw [get?_insert_of_ne doc hname]
      simp [get?, Ne.symm hname]

theorem get?_foldl_erase (doc : Document) (erased : List String) (key : String) :
    get? (erased.foldl erase doc) key = if key ∈ erased then none else get? doc key := by
  induction erased generalizing doc with
  | nil => simp
  | cons name rest ih =>
    rw [List.foldl_cons, ih]
    by_cases hname : key = name
    · subst hname
      simp
    · simp [get?_erase_of_ne doc hname, hname]

end Document

end DocQuery
