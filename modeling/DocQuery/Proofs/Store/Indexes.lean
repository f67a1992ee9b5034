import DocQuery.Proofs.Store.Distinct

/-!
# Creating indexes

A unique index fits documents whose keys differ.  Indexes are created up to the first that does not
fit; each takes the place of those of its name, and the documents stay as they are.
-/

namespace DocQuery

namespace IndexSpec

/-- Whether an index can be created over documents: a unique one needs keys that differ. -/
def Fits (index : IndexSpec) (docs : List Document) : Prop :=
  index.unique = true → docs.Pairwise (Collection.KeysDiffer index)

instance (index : IndexSpec) (docs : List Document) : Decidable (index.Fits docs) :=
  have : DecidableRel (Collection.KeysDiffer index) := fun _ _ => inferInstanceAs (Decidable (_ = _))
  inferInstanceAs (Decidable (_ → _))

/-- Indexes with one more, in place of those of its name. -/
def installIn (indexes : List IndexSpec) (index : IndexSpec) : List IndexSpec :=
  (indexes.filter fun existing => existing.resolvedName ≠ index.resolvedName) ++ [index]

/-- Several indexes all fit, or one of them is the first that does not. -/
theorem fit_or_exists_first (docs : List Document) (indexes : List IndexSpec) :
    (∀ index ∈ indexes, index.Fits docs) ∨
      ∃ created refused rest, indexes = created ++ refused :: rest ∧
        (∀ index ∈ created, index.Fits docs) ∧ ¬refused.Fits docs := by
  induction indexes with
  | nil => exact .inl (List.forall_mem_nil _)
  | cons index rest ih =>
    by_cases hindex : index.Fits docs
    · rcases ih with hrest | ⟨created, refused, others, rfl, hcreated, hrefused⟩
      · exact .inl (List.forall_mem_cons.mpr ⟨hindex, hrest⟩)
      · refine .inr ⟨index :: created, refused, others, rfl, ?_, hrefused⟩
        exact List.forall_mem_cons.mpr ⟨hindex, hcreated⟩
    · exact .inr ⟨[], index, rest, rfl, List.forall_mem_nil _, hindex⟩

end IndexSpec

namespace Collection

/-- Keys that differ from each other and from earlier ones repeat none. -/
theorem repeatedKey?_eq_none {earlier keys : List (List Value)}
    (h : (earlier ++ keys).Pairwise fun a b => sameKey a b = false) :
    repeatedKey? earlier keys = none := by
  induction keys generalizing earlier with
  | nil => rfl
  | cons key rest ih =>
    have hnew : earlier.any (fun other => sameKey other key) = false := by
      rw [List.any_eq_false]
      intro other hother
      have hdiffers := (List.pairwise_append.mp h).2.2 other hother key List.mem_cons_self
      simp [hdiffers]
    rw [repeatedKey?, hnew, if_neg Bool.false_ne_true]
    apply ih
    rw [List.append_assoc]
    exact h

/-- The collection with indexes installed one after the other. -/
def withIndexes (collection : Collection) (indexes : List IndexSpec) : Collection :=
  { collection with indexes := indexes.foldl IndexSpec.installIn collection.indexes }

variable {collection : Collection} {index refused : IndexSpec} {created indexes : List IndexSpec}

theorem createIndex_of_fits (h : index.Fits collection.documents) :
    collection.createIndex index = .ok (collection.withIndexes [index]) := by
  have hrepeated : (if index.unique then
      repeatedKey? [] (collection.documents.map (indexKey index)) else none) = none := by
    by_cases hunique : index.unique = true
    · rw [if_pos hunique]
      apply repeatedKey?_eq_none
      rw [List.nil_append, List.pairwise_map]
      exact h hunique
    · rw [if_neg hunique]
  unfold createIndex
  rw [hrepeated]
  rfl

/-- An index that does not fit is refused for a key that occurs twice. -/
theorem createIndex_of_not_fits (h : ¬index.Fits collection.documents) :
    ∃ key, collection.createIndex index = .error (.duplicateKey index.resolvedName key) := by
  obtain ⟨hunique, hkeys⟩ := Classical.not_imp.mp h
  have hrepeated : repeatedKey? [] (collection.documents.map (indexKey index)) ≠ none := by
    intro hnone
    apply hkeys
    have hdiffer := pairwise_of_repeatedKey? hnone List.Pairwise.nil
    rw [List.nil_append, List.pairwise_map] at hdiffer
    exact hdiffer
  obtain ⟨key, hkey⟩ := Option.ne_none_iff_exists'.mp hrepeated
  refine ⟨key, ?_⟩
  unfold createIndex
  rw [if_pos hunique, hkey]

/-- Indexes that fit are created, and the others are left to do. -/
theorem createIndexes_append (h : ∀ index ∈ created, index.Fits collection.documents)
    (rest : List IndexSpec) :
    collection.createIndexes (created ++ rest) =
      (collection.withIndexes created).createIndexes rest := by
  induction created generalizing collection with
  | nil => rfl
  | cons index others ih =>
    obtain ⟨hindex, hothers⟩ := List.forall_mem_cons.mp h
    rw [List.cons_append, createIndexes, createIndex_of_fits hindex]
    exact ih hothers

theorem createIndexes_of_fit (h : ∀ index ∈ indexes, index.Fits collection.documents) :
    collection.createIndexes indexes = (collection.withIndexes indexes, none) := by
  have hall := createIndexes_append h []
  rw [List.append_nil] at hall
  exact hall

/-- The first index that does not fit ends the creation, with those in front of it installed. -/
theorem createIndexes_of_not_fits (hcreated : ∀ index ∈ created, index.Fits collection.documents)
    (hrefused : ¬refused.Fits collection.documents) (rest : List IndexSpec) :
    ∃ key, collection.createIndexes (created ++ refused :: rest) =
      (collection.withIndexes created, some (.duplicateKey refused.resolvedName key)) := by
  have hdocuments : ¬refused.Fits (collection.withIndexes created).documents := hrefused
  obtain ⟨key, hkey⟩ := createIndex_of_not_fits hdocuments
  refine ⟨key, ?_⟩
  rw [createIndexes_append hcreated, createIndexes, hkey]

/-- Indexes are created without a failure exactly if all of them fit. -/
theorem createIndexes_eq_none_iff : (collection.createIndexes indexes).2 = none ↔
    ∀ index ∈ indexes, index.Fits collection.documents := by
  constructor
  · intro h
    rcases IndexSpec.fit_or_exists_first collection.documents indexes with
      hfits | ⟨created, refused, rest, rfl, hcreated, hrefused⟩
    · exact hfits
    · obtain ⟨key, hkey⟩ := createIndexes_of_not_fits hcreated hrefused rest
      rw [hkey] at h
      cases h
  · intro h
    rw [createIndexes_of_fit h]

end Collection

end DocQuery
