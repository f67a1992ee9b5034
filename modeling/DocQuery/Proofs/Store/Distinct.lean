import DocQuery.Proofs.Store.Reached
import DocQuery.Proofs.Value.Order

/-!
# Distinct identities and keys

Every document of a reached store has an identity, no two documents of a collection have equal
identities, and none have equal keys in a unique index.  The invariant speaks of pairs in the order
of the documents; an update puts a document between others, so it needs that equality of values is
symmetric.
-/

namespace DocQuery

/-- The identities of two documents, where both have one, are not equal. -/
def Document.IdsDiffer (a b : Document) : Prop :=
  ∀ x y, a.id? = some x → b.id? = some y → x.equal y = false

theorem Document.IdsDiffer.symm {a b : Document} (h : a.IdsDiffer b) : b.IdsDiffer a := by
  intro y x hy hx
  rw [Value.equal_comm]
  exact h x y hx hy

instance : Std.Symm Document.IdsDiffer := ⟨fun _ _ => Document.IdsDiffer.symm⟩

namespace Collection

theorem sameKey_comm (xs ys : List Value) : sameKey xs ys = sameKey ys xs := by
  fun_induction sameKey xs ys with
  | case1 => rfl
  | case2 x xs y ys ih => rw [sameKey, ih, Value.equal_comm]
  | case3 xs ys hnil hcons =>
    cases xs <;> cases ys
    · exact (hnil rfl rfl).elim
    · rfl
    · rfl
    · exact (hcons _ _ _ _ rfl rfl).elim

/-- The keys of two documents in an index are not equal. -/
def KeysDiffer (index : IndexSpec) (a b : Document) : Prop :=
  sameKey (indexKey index a) (indexKey index b) = false

theorem KeysDiffer.symm {index : IndexSpec} {a b : Document} (h : KeysDiffer index a b) :
    KeysDiffer index b a := by
  unfold KeysDiffer
  rw [sameKey_comm]
  exact h

/-- The documents of a collection have identities that differ, and keys that differ in each unique
    index. -/
structure Distinct (collection : Collection) : Prop where
  identified : ∀ doc ∈ collection.documents, doc.id?.isSome
  ids : collection.documents.Pairwise Document.IdsDiffer
  keys : ∀ index ∈ collection.indexes, index.unique = true →
    collection.documents.Pairwise (KeysDiffer index)

/-! ## The check of a document -/

theorem idsDiffer_of_duplicateId? {candidate other : Document} {others : List Document}
    (h : duplicateId? candidate others = none) (hother : other ∈ others) :
    other.IdsDiffer candidate := by
  intro x y hx hy
  unfold duplicateId? at h
  simp only [hy] at h
  split at h
  · cases h
  · rename_i hany
    have hnot := fun hequal => hany (List.any_eq_true.mpr ⟨other, hother, hequal⟩)
    simpa [hx] using hnot

theorem keysDiffer_of_duplicateKey? {candidate other : Document} {others : List Document}
    {index : IndexSpec} (h : duplicateKey? candidate others index = none)
    (hunique : index.unique = true) (hother : other ∈ others) :
    KeysDiffer index other candidate := by
  unfold duplicateKey? at h
  simp only [hunique, Bool.true_and] at h
  split at h
  · cases h
  · rename_i hany
    have hnot := fun hequal => hany (List.any_eq_true.mpr ⟨other, hother, hequal⟩)
    simpa [KeysDiffer] using hnot

/-- A document that passes the check goes between the others. -/
theorem Distinct.place {collection : Collection} {before after : List Document}
    (h : Distinct { collection with documents := before ++ after }) {candidate : Document}
    (hid : candidate.id?.isSome)
    (hpasses : collection.rejection? candidate (before ++ after) = none) :
    Distinct { collection with documents := before ++ candidate :: after } := by
  obtain ⟨-, hrest⟩ := Option.or_eq_none_iff.mp hpasses
  obtain ⟨hids, hkeys⟩ := Option.or_eq_none_iff.mp hrest
  refine ⟨?_, ?_, ?_⟩
  · intro doc hdoc
    rcases List.mem_append.mp hdoc with hbefore | hafter
    · exact h.identified doc (List.mem_append_left _ hbefore)
    · rcases List.mem_cons.mp hafter with rfl | hafter
      · exact hid
      · exact h.identified doc (List.mem_append_right _ hafter)
  · refine (List.pairwise_middle Document.IdsDiffer.symm).mpr (List.pairwise_cons.mpr ⟨?_, h.ids⟩)
    intro other hother
    exact (idsDiffer_of_duplicateId? hids hother).symm
  · intro index hindex hunique
    refine (List.pairwise_middle KeysDiffer.symm).mpr
      (List.pairwise_cons.mpr ⟨?_, h.keys index hindex hunique⟩)
    intro other hother
    have hkey := List.findSome?_eq_none_iff.mp hkeys index hindex
    exact (keysDiffer_of_duplicateKey? hkey hunique hother).symm

theorem Distinct.sublist {collection : Collection} (h : collection.Distinct)
    {documents : List Document} (hsublist : documents.Sublist collection.documents) :
    Distinct { collection with documents } where
  identified doc hdoc := h.identified doc (hsublist.subset hdoc)
  ids := h.ids.sublist hsublist
  keys index hindex hunique := (h.keys index hindex hunique).sublist hsublist

/-! ## The operations -/

theorem distinct_insertMany (collection : Collection) (docs : List Document)
    (h : collection.Distinct) (hids : ∀ doc ∈ docs, doc.id?.isSome) :
    (collection.insertMany docs).1.Distinct := by
  induction docs generalizing collection with
  | nil => exact h
  | cons doc rest ih =>
    rw [insertMany]
    cases hcheck : collection.rejection? doc collection.documents with
    | some rejection => exact h
    | none =>
      have hplaced : Distinct { collection with documents := collection.documents ++ [doc] } := by
        refine @Distinct.place collection collection.documents [] ?_ doc
          (hids doc List.mem_cons_self) ?_
        · rw [List.append_nil]
          exact h
        · rw [List.append_nil]
          exact hcheck
      exact ih _ hplaced fun other hother => hids other (List.mem_cons_of_mem _ hother)

/-- A changed document has an identity where the stored one has, and passes the check. -/
theorem updateStep_eq_changed {collection : Collection} {filter update doc next : Document}
    {others : List Document}
    (h : collection.updateStep filter update doc others = .ok (.changed next)) :
    Value.sameOption next.id? doc.id? = true ∧ collection.rejection? next others = none := by
  unfold updateStep at h
  obtain ⟨satisfied, -, h⟩ := bind_eq_ok.mp h
  split at h
  · obtain ⟨result, -, h⟩ := bind_eq_ok.mp h
    split at h
    · cases h
    · split at h
      · cases h
      · rename_i hsame
        split at h
        · cases h
        · rename_i hcheck
          cases h
          exact ⟨by simpa using hsame, hcheck⟩
  · cases h

theorem isSome_of_sameOption {a b : Option Value} (h : Value.sameOption a b = true)
    (hb : b.isSome) : a.isSome := by
  cases a <;> cases b
  · exact hb
  · cases h
  · rfl
  · rfl

/-- An update keeps the documents distinct wherever it stops: the documents that it has passed and
    those that are left are distinct together at each step. -/
theorem distinct_updateFrom {collection : Collection} (filter update : Document)
    (done rest : List Document) (outcome : UpdateOutcome)
    (h : Distinct { collection with documents := done ++ rest }) :
    Distinct { collection with
      documents := (collection.updateFrom filter update done outcome rest).1 } := by
  induction rest generalizing done outcome with
  | nil =>
    rw [List.append_nil] at h
    exact h
  | cons doc rest ih =>
    -- The document moves to those that are done, as it is or as it has become.
    have hpassed : Distinct { collection with documents := done ++ [doc] ++ rest } := by
      rw [List.append_assoc]
      exact h
    rw [updateFrom]
    split
    · exact h
    · exact ih _ _ hpassed
    · exact ih _ _ hpassed
    · rename_i next hstep
      obtain ⟨hsame, hcheck⟩ := updateStep_eq_changed hstep
      refine ih _ _ ?_
      rw [List.append_assoc]
      refine Distinct.place ?_ ?_ hcheck
      · exact h.sublist ((List.Sublist.refl done).append (List.sublist_cons_self doc rest))
      · exact isSome_of_sameOption hsame
          (h.identified doc (List.mem_append_right _ List.mem_cons_self))
    · exact h

/-- A failed delete leaves no documents, and any other only leaves some out. -/
theorem distinct_deleteMany (collection : Collection) (filter : Document)
    (h : collection.Distinct) : (collection.deleteMany filter).1.Distinct := by
  unfold deleteMany
  cases hkept : keepUnmatched filter collection.documents with
  | ok kept =>
    rw [keepUnmatched_eq_ok hkept]
    exact h.sublist List.filter_sublist
  | error fault => exact h.sublist (List.nil_sublist _)

theorem pairwise_of_repeatedKey? {earlier keys : List (List Value)}
    (h : repeatedKey? earlier keys = none)
    (hearlier : earlier.Pairwise fun a b => sameKey a b = false) :
    (earlier ++ keys).Pairwise fun a b => sameKey a b = false := by
  induction keys generalizing earlier with
  | nil =>
    rw [List.append_nil]
    exact hearlier
  | cons key rest ih =>
    rw [repeatedKey?] at h
    split at h
    · cases h
    · rename_i hany
      have hnew : (earlier ++ [key]).Pairwise fun a b => sameKey a b = false := by
        refine List.pairwise_append.mpr ⟨hearlier, List.pairwise_singleton _ _, ?_⟩
        intro other hother last hlast
        rw [List.mem_singleton.mp hlast]
        exact Bool.eq_false_iff.mpr fun hequal =>
          hany (List.any_eq_true.mpr ⟨other, hother, hequal⟩)
      have hall := ih h hnew
      rw [List.append_assoc] at hall
      exact hall

/-- A created index is unique only if the keys differ; the other indexes are those that were
    there. -/
theorem distinct_createIndex {collection created : Collection} {index : IndexSpec}
    (h : collection.Distinct) (hcreated : collection.createIndex index = .ok created) :
    created.Distinct := by
  unfold createIndex at hcreated
  generalize hrepeated : (if index.unique then
    repeatedKey? [] (collection.documents.map (indexKey index)) else none) = repeated at hcreated
  cases repeated with
  | some key => cases hcreated
  | none =>
    cases hcreated
    refine ⟨h.identified, h.ids, ?_⟩
    intro other hother hunique
    rcases List.mem_append.mp hother with hold | hnew
    · exact h.keys other (List.mem_filter.mp hold).1 hunique
    · rw [List.mem_singleton.mp hnew] at hunique ⊢
      rw [if_pos hunique] at hrepeated
      have hkeys := pairwise_of_repeatedKey? hrepeated List.Pairwise.nil
      rw [List.nil_append, List.pairwise_map] at hkeys
      exact hkeys

theorem distinct_createIndexes (collection : Collection) (indexes : List IndexSpec)
    (h : collection.Distinct) : (collection.createIndexes indexes).1.Distinct := by
  induction indexes generalizing collection with
  | nil => exact h
  | cons index rest ih =>
    rw [createIndexes]
    cases hcreated : collection.createIndex index with
    | error rejection => exact h
    | ok created => exact ih created (distinct_createIndex h hcreated)

/-- Distinctness holds of new collections and is kept by every operation. -/
theorem invariant_distinct : Invariant Distinct where
  empty := ⟨by simp [empty], List.Pairwise.nil, by simp [empty]⟩
  create _ := ⟨by simp [empty], List.Pairwise.nil, by simp [empty]⟩
  insertMany := distinct_insertMany
  updateMany collection filter update h := distinct_updateFrom filter update [] _ _ h
  deleteMany := distinct_deleteMany
  modifyValidator _ _ h := ⟨h.identified, h.ids, h.keys⟩
  createIndexes := distinct_createIndexes

end Collection

/-! ## Reached stores -/

/-- The documents of a reached store have identities, and those of a collection differ in them. -/
theorem Store.documents_reached (calls : List StoreCall) (name : String) :
    (∀ doc ∈ (reached calls).documents name, doc.id?.isSome) ∧
      ((reached calls).documents name).Pairwise Document.IdsDiffer := by
  rw [documents]
  cases hcollection : (reached calls).collection? name with
  | none => exact ⟨List.forall_mem_nil _, .nil⟩
  | some collection =>
    have hdistinct := (all_reached Collection.invariant_distinct calls).collection hcollection
    exact ⟨hdistinct.identified, hdistinct.ids⟩

theorem rel_getElem_of_pairwise {α : Type} {R : α → α → Prop} (hsymm : ∀ {a b}, R a b → R b a)
    {xs : List α} (h : xs.Pairwise R) {i j : Nat} (hi : i < xs.length) (hj : j < xs.length)
    (hne : i ≠ j) : R xs[i] xs[j] := by
  rw [List.pairwise_iff_getElem] at h
  rcases Nat.lt_or_gt_of_ne hne with hlt | hgt
  · exact h i j hi hj hlt
  · exact hsymm (h j i hj hi hgt)

/-- Whatever calls a store has seen, failed ones included: in each of its collections every document
    has an identity, documents at two places have identities that are not equal, and in a unique
    index they have keys that are not equal. -/
theorem distinct_of_mem_reached (calls : List StoreCall) {name : String} {collection : Collection}
    (hcollection : (name, collection) ∈ (Store.reached calls).collections) :
    (∀ doc ∈ collection.documents, ∃ id, doc.id? = some id) ∧
      (∀ (i j : Nat) (hi : i < collection.documents.length)
        (hj : j < collection.documents.length), i ≠ j →
        ∀ x y, collection.documents[i].id? = some x → collection.documents[j].id? = some y →
          x.equal y = false) ∧
      ∀ index ∈ collection.indexes, index.unique = true →
        ∀ (i j : Nat) (hi : i < collection.documents.length)
          (hj : j < collection.documents.length), i ≠ j →
          Collection.sameKey (Collection.indexKey index collection.documents[i])
            (Collection.indexKey index collection.documents[j]) = false := by
  have hdistinct : collection.Distinct :=
    Store.all_reached Collection.invariant_distinct calls _ hcollection
  refine ⟨?_, ?_, ?_⟩
  · intro doc hdoc
    exact Option.isSome_iff_exists.mp (hdistinct.identified doc hdoc)
  · intro i j hi hj hne
    exact rel_getElem_of_pairwise Document.IdsDiffer.symm hdistinct.ids hi hj hne
  · intro index hindex hunique i j hi hj hne
    exact rel_getElem_of_pairwise Collection.KeysDiffer.symm
      (hdistinct.keys index hindex hunique) hi hj hne

/-- A unique index, two inserts of which the second is rejected for its key, and an update that is
    rejected for its key after it has changed the first document. -/
theorem distinct_of_mem_reached_users :
    ∃ collection, ("users", collection) ∈ (Store.reached
        [.createIndexes "users" [⟨[("email", .int32 1)], none, true⟩],
          .insertMany "users" [[("_id", .int32 1), ("email", .string "a")],
            [("email", .string "b")]],
          .insertMany "users" [[("email", .string "a")]],
          .updateMany "users" [] [("$set", .document [("email", .string "c")])]]).collections ∧
      ∃ (hi : 0 < collection.documents.length) (hj : 1 < collection.documents.length),
        (∀ x y, collection.documents[0].id? = some x → collection.documents[1].id? = some y →
          x.equal y = false) ∧
        ∃ index ∈ collection.indexes, index.unique = true ∧
          Collection.sameKey (Collection.indexKey index collection.documents[0])
            (Collection.indexKey index collection.documents[1]) = false := by
  generalize hcalls : [StoreCall.createIndexes _ _, _, _, _] = calls
  have hshape : (Store.reached calls).collections.map (fun entry =>
      (entry.1, entry.2.indexes.map IndexSpec.unique, entry.2.documents.length)) =
      [("users", [true], 2)] := by
    subst hcalls
    decide +kernel
  obtain ⟨⟨name, collection⟩, hcollections, hentry⟩ := List.map_eq_singleton_iff.mp hshape
  simp only [Prod.mk.injEq] at hentry
  obtain ⟨rfl, hindexes, hlength⟩ := hentry
  obtain ⟨index, hindexes, hunique⟩ := List.map_eq_singleton_iff.mp hindexes
  have hmem : ("users", collection) ∈ (Store.reached calls).collections := by
    rw [hcollections]
    exact List.mem_cons_self
  have hindex : index ∈ collection.indexes := by
    rw [hindexes]
    exact List.mem_cons_self
  have hi : 0 < collection.documents.length := by omega
  have hj : 1 < collection.documents.length := by omega
  obtain ⟨-, hids, hkeys⟩ := distinct_of_mem_reached calls hmem
  exact ⟨collection, hmem, hi, hj, hids 0 1 hi hj (by decide), index, hindex, hunique,
    hkeys index hindex hunique 0 1 hi hj (by decide)⟩

end DocQuery
