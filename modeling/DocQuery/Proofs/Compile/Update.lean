import DocQuery.Proofs.Document.Basic
import DocQuery.Proofs.Engine.Update
import DocQuery.Proofs.Run
import Mathlib.Data.List.Pairwise

/-!
# What compiled changes assign and remove

The leaves of changes are the paths at which their nested dictionaries end.  Every leaf is assigned,
removed or passed over, and the two walks of the compiler split them among each other.
-/

namespace DocQuery

/-- A place at which changes end: its path, what is put there, and what a nil value means. -/
structure Leaf where
  path : String
  operand : Operand
  onNil : NilPolicy

namespace Operand

mutual

/-- The leaves of an operand at a path.  A dictionary without entries is one. -/
def leaves (onNil : NilPolicy) : String → Operand → List Leaf
  | path, .dictionary (entry :: rest) => entryLeaves onNil path (entry :: rest)
  | path, operand => [⟨path, operand, onNil⟩]
termination_by structural _ a => a

def entryLeaves (onNil : NilPolicy) : String → List (Key × Operand) → List Leaf
  | _, [] => []
  | path, (key, operand) :: rest =>
      leaves onNil (childPath path key) operand ++ entryLeaves onNil path rest
termination_by structural _ a => a

end

end Operand

def ChangeEntry.leaves (entry : ChangeEntry) : List Leaf :=
  entry.operand.leaves entry.onNil entry.key.storageName

def Changes.leaves (changes : Changes) : List Leaf := changes.entries.flatMap ChangeEntry.leaves

namespace Leaf

def Apart (first second : Leaf) : Prop := Path.Apart first.path second.path

instance : Std.Symm Leaf.Apart := ⟨fun _ _ => Path.Apart.symm⟩

instance : DecidableRel Leaf.Apart := fun first second =>
  inferInstanceAs (Decidable (Path.Apart first.path second.path))

/-- What is assigned for a leaf: its value, or null for a nil value that is stored. -/
def assigned? (encoder : Encoder) (leaf : Leaf) : Option (String × Value) :=
  if leaf.operand.isNil then if leaf.onNil = .setNull then some (leaf.path, .null) else none
  else (leaf.operand.encode encoder).toOption.map fun value => (leaf.path, value)

/-- Whether the value at a leaf is removed. -/
def isRemoved (leaf : Leaf) : Bool := leaf.operand.isNil && leaf.onNil = .unset

/-- Whether a leaf has a value, if it needs one. -/
def Encodes (encoder : Encoder) (leaf : Leaf) : Prop :=
  leaf.operand.isNil = false → ∃ value, leaf.operand.encode encoder = .ok value

variable {encoder : Encoder} {leaf : Leaf}

theorem path_of_assigned? {field : String × Value} (h : leaf.assigned? encoder = some field) :
    field.1 = leaf.path := by
  unfold assigned? at h
  split at h
  · split at h
    · cases h
      rfl
    · cases h
  · obtain ⟨value, -, rfl⟩ := Option.map_eq_some_iff.mp h
    rfl

theorem assigned?_of_encode {value : Value} (hnil : leaf.operand.isNil = false)
    (h : leaf.operand.encode encoder = .ok value) :
    leaf.assigned? encoder = some (leaf.path, value) := by
  rw [assigned?, if_neg (by simp [hnil]), h]
  rfl

theorem assigned?_of_nil (hnil : leaf.operand.isNil = true) :
    leaf.assigned? encoder = if leaf.onNil = .setNull then some (leaf.path, .null) else none :=
  if_pos hnil

end Leaf

namespace Operand

variable {encoder : Encoder} {onNil : NilPolicy}

theorem leaves_of_not_filled (path : String) {operand : Operand}
    (h : ∀ entry rest, operand = .dictionary (entry :: rest) → False) :
    leaves onNil path operand = [⟨path, operand, onNil⟩] := by
  rw [leaves]
  exact h

theorem removals_of_not_filled (path : String) {operand : Operand}
    (h : ∀ entry rest, operand = .dictionary (entry :: rest) → False) :
    removals onNil path operand = if operand.isNil && onNil = .unset then [path] else [] := by
  cases operand with
  | dictionary entries =>
    cases entries with
    | nil => rfl
    | cons entry rest => exact (h entry rest rfl).elim
  | _ => rfl

theorem assignments_of_not_filled (path : String) {operand : Operand}
    (h : ∀ entry rest, operand = .dictionary (entry :: rest) → False) :
    assignments encoder onNil path operand =
      if operand.isNil then .ok (if onNil = .setNull then [(path, .null)] else [])
      else do return [(path, ← operand.encode encoder)] := by
  rw [assignments]
  exact h

/-- The paths that an operand removes are those of its leaves that are removed. -/
theorem removals_eq (path : String) (operand : Operand) :
    removals onNil path operand =
      ((leaves onNil path operand).filter Leaf.isRemoved).map Leaf.path := by
  apply leaves.induct
    (fun path operand => removals onNil path operand =
      ((leaves onNil path operand).filter Leaf.isRemoved).map Leaf.path)
    (fun path entries => entryRemovals onNil path entries =
      ((entryLeaves onNil path entries).filter Leaf.isRemoved).map Leaf.path)
  case case1 =>
    intro path entry rest ih
    rw [removals, leaves]
    exact ih
  case case2 =>
    intro path operand hleaf
    rw [leaves_of_not_filled path hleaf, removals_of_not_filled path hleaf, List.filter_cons]
    show _ = List.map Leaf.path (if operand.isNil && onNil = .unset then _ else _)
    split <;> rfl
  case case3 =>
    intro path
    rfl
  case case4 =>
    intro path key operand rest ihoperand ihrest
    rw [entryRemovals, entryLeaves, List.filter_append, List.map_append, ihoperand, ihrest]

theorem assignments_leaf {path : String} {operand : Operand} {assigned : List (String × Value)}
    (hleaf : ∀ entry rest, operand = .dictionary (entry :: rest) → False)
    (h : assignments encoder onNil path operand = .ok assigned) :
    assigned = (Leaf.assigned? encoder ⟨path, operand, onNil⟩).toList ∧
      Leaf.Encodes encoder ⟨path, operand, onNil⟩ := by
  rw [assignments_of_not_filled path hleaf] at h
  by_cases hnil : operand.isNil = true
  · rw [if_pos hnil] at h
    cases h
    refine ⟨?_, fun hfilled => ?_⟩
    · rw [Leaf.assigned?_of_nil hnil]
      split <;> rfl
    · rw [hnil] at hfilled
      cases hfilled
  · rw [if_neg hnil] at h
    obtain ⟨value, hvalue, h⟩ := bind_eq_ok.mp h
    cases h
    refine ⟨?_, fun _ => ⟨value, hvalue⟩⟩
    rw [Leaf.assigned?_of_encode (by simpa using hnil) hvalue]
    rfl

/-- The assignments of an operand are those of its leaves, all of which have their values. -/
theorem assignments_eq_ok {path : String} {operand : Operand} {assigned : List (String × Value)}
    (h : assignments encoder onNil path operand = .ok assigned) :
    assigned = (leaves onNil path operand).filterMap (Leaf.assigned? encoder) ∧
      ∀ leaf ∈ leaves onNil path operand, leaf.Encodes encoder := by
  revert assigned
  apply leaves.induct
    (fun path operand => ∀ {assigned}, assignments encoder onNil path operand = .ok assigned →
      assigned = (leaves onNil path operand).filterMap (Leaf.assigned? encoder) ∧
        ∀ leaf ∈ leaves onNil path operand, leaf.Encodes encoder)
    (fun path entries => ∀ {assigned},
      entryAssignments encoder onNil path entries = .ok assigned →
      assigned = (entryLeaves onNil path entries).filterMap (Leaf.assigned? encoder) ∧
        ∀ leaf ∈ entryLeaves onNil path entries, leaf.Encodes encoder)
  case case1 =>
    intro path entry rest ih assigned h
    rw [assignments] at h
    rw [leaves]
    exact ih h
  case case2 =>
    intro path operand hleaf assigned h
    obtain ⟨hassigned, hencodes⟩ := assignments_leaf hleaf h
    rw [leaves_of_not_filled path hleaf]
    refine ⟨?_, ?_⟩
    · rw [hassigned]
      cases hvalue : Leaf.assigned? encoder ⟨path, operand, onNil⟩ <;> simp [hvalue]
    · rintro leaf (_ | ⟨_, ⟨⟩⟩)
      exact hencodes
  case case3 =>
    intro path assigned h
    cases h
    exact ⟨rfl, nofun⟩
  case case4 =>
    intro path key operand rest ihoperand ihrest assigned h
    rw [entryAssignments] at h
    obtain ⟨first, hfirst, h⟩ := bind_eq_ok.mp h
    obtain ⟨others, hothers, h⟩ := bind_eq_ok.mp h
    cases h
    obtain ⟨rfl, hencodes⟩ := ihoperand hfirst
    obtain ⟨rfl, hothersEncode⟩ := ihrest hothers
    rw [entryLeaves, List.filterMap_append]
    refine ⟨rfl, ?_⟩
    intro leaf hleaf
    rcases List.mem_append.mp hleaf with hleaf | hleaf
    · exact hencodes leaf hleaf
    · exact hothersEncode leaf hleaf

end Operand

namespace Changes

variable {encoder : Encoder}

theorem assignments_eq_ok {entries : List ChangeEntry}
    {assigned : List (List (String × Value))}
    (h : entries.mapM (·.assignments encoder) = .ok assigned) :
    assigned.flatten = (entries.flatMap ChangeEntry.leaves).filterMap (Leaf.assigned? encoder) ∧
      ∀ leaf ∈ entries.flatMap ChangeEntry.leaves, leaf.Encodes encoder := by
  induction entries generalizing assigned with
  | nil =>
    cases h
    exact ⟨rfl, nofun⟩
  | cons entry rest ih =>
    rw [List.mapM_cons] at h
    obtain ⟨first, hfirst, h⟩ := bind_eq_ok.mp h
    obtain ⟨others, hothers, h⟩ := bind_eq_ok.mp h
    cases h
    obtain ⟨hassigned, hencodes⟩ := Operand.assignments_eq_ok hfirst
    obtain ⟨hrest, hothersEncode⟩ := ih hothers
    rw [List.flatten_cons, List.flatMap_cons, List.filterMap_append, hrest, hassigned]
    refine ⟨rfl, ?_⟩
    intro leaf hleaf
    rcases List.mem_append.mp hleaf with hleaf | hleaf
    · exact hencodes leaf hleaf
    · exact hothersEncode leaf hleaf

theorem removals_eq (entries : List ChangeEntry) :
    entries.flatMap ChangeEntry.removals =
      ((entries.flatMap ChangeEntry.leaves).filter Leaf.isRemoved).map Leaf.path := by
  rw [List.filter_flatMap, List.map_flatMap]
  exact List.flatMap_congr fun entry _ => Operand.removals_eq _ _

/-- The assigned fields of changes, in the order of their leaves. -/
def assignedFields (encoder : Encoder) (changes : Changes) : List (String × Value) :=
  changes.leaves.filterMap (Leaf.assigned? encoder)

/-- The removed paths of changes, in the order of their leaves. -/
def removedPaths (changes : Changes) : List String :=
  (changes.leaves.filter Leaf.isRemoved).map Leaf.path

theorem sublist_assignedFields (encoder : Encoder) (changes : Changes) :
    ((changes.assignedFields encoder).map Prod.fst).Sublist (changes.leaves.map Leaf.path) := by
  rw [assignedFields]
  induction changes.leaves with
  | nil => exact List.Sublist.refl _
  | cons leaf rest ih =>
    cases hassigned : leaf.assigned? encoder with
    | none =>
      rw [List.filterMap_cons_none hassigned]
      exact ih.cons _
    | some field =>
      rw [List.filterMap_cons_some hassigned, List.map_cons, Leaf.path_of_assigned? hassigned]
      exact ih.cons_cons _

theorem sublist_removedPaths (changes : Changes) :
    changes.removedPaths.Sublist (changes.leaves.map Leaf.path) :=
  List.filter_sublist.map _

theorem eq_nil_of_operatorFields {operator : String} {fields : Document}
    (h : operatorFields operator fields = []) : fields = [] := by
  unfold operatorFields at h
  split at h
  · rename_i hempty
    exact List.isEmpty_iff.mp hempty
  · cases h

theorem nodup_of_pairwise_apart {paths : List String} (h : paths.Pairwise Path.Apart) :
    paths.Nodup :=
  h.imp fun hapart => hapart.1

/-- Leaves that are apart are written to an update field by field, or to none where nothing is
    assigned and nothing removed. -/
theorem update_eq_ok {changes : Changes} {compiled : Option Document}
    (hset : changes.operation = .set) (hapart : changes.leaves.Pairwise Leaf.Apart)
    (h : changes.update encoder = .ok compiled) :
    compiled = nonEmpty
        (operatorFields "$set" (changes.assignedFields encoder) ++
          operatorFields "$unset" (changes.removedPaths.map fun path => (path, .null))) ∧
      ∀ leaf ∈ changes.leaves, leaf.Encodes encoder := by
  have hpaths : (changes.leaves.map Leaf.path).Pairwise Path.Apart := List.pairwise_map.mpr hapart
  rw [update, if_pos hset, setUpdate] at h
  obtain ⟨assigned, hassigned, h⟩ := bind_eq_ok.mp h
  obtain ⟨hfields, hencodes⟩ := assignments_eq_ok hassigned
  -- Paths that are apart are distinct, so no entry of either document takes another's place.
  have hset : Document.ofList assigned.flatten = changes.assignedFields encoder := by
    rw [hfields]
    apply Document.ofList_eq_self
    exact nodup_of_pairwise_apart (hpaths.sublist (sublist_assignedFields encoder changes))
  have hunset : Document.ofList ((changes.entries.flatMap ChangeEntry.removals).map fun path =>
      (path, .null)) = changes.removedPaths.map fun path => (path, .null) := by
    rw [removals_eq]
    apply Document.ofList_eq_self
    rw [List.map_map]
    show (List.map id _).Nodup
    rw [List.map_id]
    exact nodup_of_pairwise_apart (hpaths.sublist (sublist_removedPaths changes))
  dsimp only at h
  rw [hset, hunset] at h
  cases h
  exact ⟨rfl, hencodes⟩

/-- The document with the assigned fields of changes written and then their removed paths
    erased. -/
def applyTo (encoder : Encoder) (changes : Changes) (doc : Document) : Document :=
  (doc.setPaths (changes.assignedFields encoder)).erasePaths changes.removedPaths

/-- What changes make of a document: every leaf reads as it should, and every other path that is
    apart from them reads as before. -/
structure Applied (encoder : Encoder) (changes : Changes) (before after : Document) : Prop where
  assigned : ∀ leaf ∈ changes.leaves, leaf.operand.isNil = false →
    ∃ value, leaf.operand.encode encoder = .ok value ∧ after.getPath? leaf.path = some value
  nulled : ∀ leaf ∈ changes.leaves, leaf.operand.isNil = true → leaf.onNil = .setNull →
    after.getPath? leaf.path = some .null
  removed : ∀ leaf ∈ changes.leaves, leaf.operand.isNil = true → leaf.onNil = .unset →
    after.getPath? leaf.path = Option.none
  ignored : ∀ leaf ∈ changes.leaves, leaf.operand.isNil = true → leaf.onNil = .ignore →
    after.getPath? leaf.path = before.getPath? leaf.path
  others : ∀ path, (∀ leaf ∈ changes.leaves, Path.Apart leaf.path path) →
    after.getPath? path = before.getPath? path

/-- Where nothing is assigned or removed at or around a path, it reads as before. -/
theorem getPath?_of_untouched {changes : Changes} (doc : Document) {path : String}
    (h : ∀ leaf ∈ changes.leaves,
      (leaf.assigned? encoder).isSome ∨ leaf.isRemoved = true → Path.Apart leaf.path path) :
    (changes.applyTo encoder doc).getPath? path = doc.getPath? path := by
  have hremoved : ∀ other ∈ changes.removedPaths, Path.Apart other path := by
    intro other hother
    obtain ⟨leaf, hleaf, rfl⟩ := List.mem_map.mp hother
    obtain ⟨hmem, hisRemoved⟩ := List.mem_filter.mp hleaf
    exact h leaf hmem (.inr hisRemoved)
  have hassigned : ∀ field ∈ changes.assignedFields encoder, Path.Apart field.1 path := by
    intro field hfield
    obtain ⟨leaf, hmem, hleaf⟩ := List.mem_filterMap.mp hfield
    rw [Leaf.path_of_assigned? hleaf]
    exact h leaf hmem (.inl (by rw [hleaf]; rfl))
  rw [applyTo, Document.getPath?_erasePaths_of_apart _ hremoved,
    Document.getPath?_setPaths_of_apart doc hassigned]

/-- What is assigned is read, since nothing is removed at or around it. -/
theorem getPath?_of_assigned {changes : Changes} (hapart : changes.leaves.Pairwise Leaf.Apart)
    (doc : Document) {leaf : Leaf} (hleaf : leaf ∈ changes.leaves) {value : Value}
    (hassigned : leaf.assigned? encoder = some (leaf.path, value))
    (hkept : leaf.isRemoved = false) :
    (changes.applyTo encoder doc).getPath? leaf.path = some value := by
  have hremoved : ∀ other ∈ changes.removedPaths, Path.Apart other leaf.path := by
    intro other hother
    obtain ⟨removed, hmem, rfl⟩ := List.mem_map.mp hother
    obtain ⟨hmem, hisRemoved⟩ := List.mem_filter.mp hmem
    apply hapart.forall hmem hleaf
    rintro rfl
    rw [hkept] at hisRemoved
    cases hisRemoved
  have hpaths : (changes.leaves.map Leaf.path).Pairwise Path.Apart := List.pairwise_map.mpr hapart
  rw [applyTo, Document.getPath?_erasePaths_of_apart _ hremoved]
  exact Document.getPath?_setPaths_of_mem doc
    (hpaths.sublist (sublist_assignedFields encoder changes))
    (List.mem_filterMap.mpr ⟨leaf, hleaf, hassigned⟩)

/-- Assignments and removals at leaves that are apart make of a document what the changes ask
    for. -/
theorem applied {changes : Changes} (hapart : changes.leaves.Pairwise Leaf.Apart)
    (hencodes : ∀ leaf ∈ changes.leaves, leaf.Encodes encoder) (doc : Document) :
    changes.Applied encoder doc (changes.applyTo encoder doc) where
  assigned := by
    intro leaf hleaf hnil
    obtain ⟨value, hvalue⟩ := hencodes leaf hleaf hnil
    have hkept : leaf.isRemoved = false := by rw [Leaf.isRemoved, hnil, Bool.false_and]
    exact ⟨value, hvalue, getPath?_of_assigned hapart doc hleaf
      (Leaf.assigned?_of_encode hnil hvalue) hkept⟩
  nulled := by
    intro leaf hleaf hnil honNil
    refine getPath?_of_assigned hapart doc hleaf ?_ ?_
    · rw [Leaf.assigned?_of_nil hnil, if_pos honNil]
    · simp [Leaf.isRemoved, honNil]
  removed := by
    intro leaf hleaf hnil honNil
    have hpaths : (changes.leaves.map Leaf.path).Pairwise Path.Apart :=
      List.pairwise_map.mpr hapart
    have hisRemoved : leaf.isRemoved = true := by simp [Leaf.isRemoved, hnil, honNil]
    exact Document.getPath?_erasePaths_of_mem _ (hpaths.sublist (sublist_removedPaths changes))
      (List.mem_map.mpr ⟨leaf, List.mem_filter.mpr ⟨hleaf, hisRemoved⟩, rfl⟩)
  ignored := by
    intro leaf hleaf hnil honNil
    refine getPath?_of_untouched doc ?_
    intro other hother htouched
    apply hapart.forall hother hleaf
    rintro rfl
    simp [Leaf.assigned?_of_nil hnil, Leaf.isRemoved, honNil] at htouched
  others := by
    intro path hpath
    exact getPath?_of_untouched doc fun leaf hleaf _ => hpath leaf hleaf

/-- Changes that assign and remove nothing are all nil values that are passed over. -/
theorem ignored_of_untouched {changes : Changes}
    (hencodes : ∀ leaf ∈ changes.leaves, leaf.Encodes encoder)
    (hassigned : changes.assignedFields encoder = []) (hremoved : changes.removedPaths = [])
    {leaf : Leaf} (hleaf : leaf ∈ changes.leaves) :
    leaf.operand.isNil = true ∧ leaf.onNil = .ignore := by
  have hnone := List.filterMap_eq_nil_iff.mp hassigned leaf hleaf
  have hkept := List.filter_eq_nil_iff.mp (List.map_eq_nil_iff.mp hremoved) leaf hleaf
  cases hnil : leaf.operand.isNil with
  | false =>
    obtain ⟨value, hvalue⟩ := hencodes leaf hleaf hnil
    rw [Leaf.assigned?_of_encode hnil hvalue] at hnone
    cases hnone
  | true =>
    rw [Leaf.assigned?_of_nil hnil] at hnone
    cases honNil : leaf.onNil with
    | setNull =>
      rw [if_pos honNil] at hnone
      cases hnone
    | unset => simp [Leaf.isRemoved, hnil, honNil] at hkept
    | ignore => exact ⟨rfl, rfl⟩

/-- Changes that set leaves at paths apart from one another, however their dictionaries nest: the
    update that they compile to runs on any document and makes of it what they ask for, and there
    is none only where every leaf is a nil value that is passed over. -/
theorem applied_of_update {changes : Changes} {compiled : Option Document}
    (hset : changes.operation = .set) (hapart : changes.leaves.Pairwise Leaf.Apart)
    (h : changes.update encoder = .ok compiled) :
    (∀ update, compiled = some update → ∀ doc : Document,
      ∃ after, doc.updated update = .ok after ∧ changes.Applied encoder doc after) ∧
    (compiled = Option.none →
      ∀ leaf ∈ changes.leaves, leaf.operand.isNil = true ∧ leaf.onNil = .ignore) := by
  obtain ⟨hcompiled, hencodes⟩ := update_eq_ok hset hapart h
  unfold nonEmpty at hcompiled
  split at hcompiled
  · rename_i hempty
    refine ⟨?_, fun _ leaf hleaf => ?_⟩
    · intro update hupdate
      rw [hupdate] at hcompiled
      cases hcompiled
    · obtain ⟨hassigned, hremoved⟩ := List.append_eq_nil_iff.mp (List.isEmpty_iff.mp hempty)
      exact ignored_of_untouched hencodes (eq_nil_of_operatorFields hassigned)
        (List.map_eq_nil_iff.mp (eq_nil_of_operatorFields hremoved)) hleaf
  · refine ⟨?_, fun hnone => ?_⟩
    · intro update hupdate doc
      rw [hupdate] at hcompiled
      cases hcompiled
      exact ⟨changes.applyTo encoder doc, doc.updated_set_unset _ _, applied hapart hencodes doc⟩
    · rw [hnone] at hcompiled
      cases hcompiled

/-- A nested value, a nested removal, a stored null and a nil value that is passed over. -/
theorem applied_of_update_profile :
    ∃ update after,
      Changes.update .standard ⟨.set,
        [⟨.name "profile", .dictionary [(.name "name", .bind (.value (.string "Ada"))),
            (.name "city", .null)], .unset⟩,
          ⟨.name "age", .null, .setNull⟩, ⟨.name "note", .null, .ignore⟩]⟩ = .ok (some update) ∧
      Document.updated [("profile", .document [("city", .string "Paris"), ("zip", .int32 1)]),
        ("note", .string "new")] update = .ok after ∧
      after.getPath? "profile.name" = some (.string "Ada") ∧
      after.getPath? "profile.city" = Option.none ∧
      after.getPath? "profile.zip" = some (.int32 1) ∧
      after.getPath? "age" = some .null ∧ after.getPath? "note" = some (.string "new") := by
  generalize hchanges : Changes.mk _ _ = changes
  have hleaves : changes.leaves =
      [⟨"profile.name", .bind (.value (.string "Ada")), .unset⟩, ⟨"profile.city", .null, .unset⟩,
        ⟨"age", .null, .setNull⟩, ⟨"note", .null, .ignore⟩] := by
    subst hchanges
    rfl
  have hset : changes.operation = .set := by
    subst hchanges
    rfl
  have hapart : changes.leaves.Pairwise Leaf.Apart := by
    rw [hleaves]
    decide
  obtain ⟨update, hupdate⟩ : ∃ update, changes.update .standard = .ok (some update) := by
    subst hchanges
    exact ⟨_, rfl⟩
  obtain ⟨hsome, -⟩ := applied_of_update hset hapart hupdate
  obtain ⟨after, hafter, happlied⟩ := hsome update rfl
    [("profile", .document [("city", .string "Paris"), ("zip", .int32 1)]), ("note", .string "new")]
  refine ⟨update, after, hupdate, hafter, ?_, ?_, ?_, ?_, ?_⟩
  · obtain ⟨value, hvalue, hread⟩ := happlied.assigned
      ⟨"profile.name", .bind (.value (.string "Ada")), .unset⟩ (by simp [hleaves]) rfl
    cases hvalue
    exact hread
  · exact happlied.removed ⟨"profile.city", .null, .unset⟩ (by simp [hleaves]) rfl rfl
  · refine (happlied.others "profile.zip" ?_).trans rfl
    rw [hleaves]
    decide
  · exact happlied.nulled ⟨"age", .null, .setNull⟩ (by simp [hleaves]) rfl rfl
  · exact (happlied.ignored ⟨"note", .null, .ignore⟩ (by simp [hleaves]) rfl rfl).trans rfl

end Changes

end DocQuery
