import DocQuery.Proofs.Compile.IndexName
import DocQuery.Proofs.Store.Indexes

/-!
# Indexes that take the place of others

A created index takes the place of the indexes of its name.  An index without a name of its own
stays exactly as long as no later one has its generated name, which other keys may have too.
-/

namespace DocQuery

open IndexSpec

variable {index : IndexSpec} {installed specs later : List IndexSpec}

theorem IndexSpec.mem_installIn {created : IndexSpec} :
    index ∈ installIn installed created ↔
      (index ∈ installed ∧ created.resolvedName ≠ index.resolvedName) ∨ index = created := by
  simp [installIn, ne_comm]

/-- An index that is not created again stays until one of its name is created. -/
theorem IndexSpec.mem_foldl_installIn (hagain : index ∉ later) :
    index ∈ later.foldl installIn installed ↔
      index ∈ installed ∧ ∀ other ∈ later, other.resolvedName ≠ index.resolvedName := by
  induction later generalizing installed with
  | nil => simp
  | cons next rest ih =>
    obtain ⟨hnext, hrest⟩ := List.ne_and_not_mem_of_not_mem_cons hagain
    rw [List.foldl_cons, ih hrest, mem_installIn, List.forall_mem_cons]
    simp [hnext, and_assoc]

namespace Store

variable {name : String} {store final : Store}

/-- A successful creation installs its indexes one after the other. -/
theorem indexes_of_createIndexes (h : createIndexes name specs store = (.ok (), final)) :
    (final.collectionOrEmpty name).indexes =
      specs.foldl installIn (store.collectionOrEmpty name).indexes := by
  rw [createIndexes_eq] at h
  obtain ⟨hresult, rfl⟩ := Prod.mk.inj h
  have hnone : ((store.collectionOrEmpty name).createIndexes specs).2 = none := by
    split at hresult
    · assumption
    · cases hresult
  rw [collectionOrEmpty_of_some (collection?_put_self ..),
    Collection.createIndexes_of_fit (Collection.createIndexes_eq_none_iff.mp hnone)]
  rfl

/-- An index without a name of its own stays exactly as long as the keys of later ones do not
    generate its name, and it stays if their names can be read back. -/
theorem mem_indexes_of_unnamed (hcreated : createIndexes name specs store = (.ok (), final))
    (hunnamed : ∀ spec ∈ (store.collectionOrEmpty name).indexes ++ specs, spec.name = none)
    (hplace : index ∈ (store.collectionOrEmpty name).indexes ∧ later = specs ∨
      ∃ front, specs = front ++ index :: later)
    (hkeys : ∀ other ∈ later, other.keys ≠ index.keys) :
    (index ∈ (final.collectionOrEmpty name).indexes ↔
        ∀ other ∈ later, keysName other.keys ≠ keysName index.keys) ∧
      ((∀ other ∈ later, Legible (index.keys ++ other.keys)) →
        index ∈ (final.collectionOrEmpty name).indexes) := by
  have hagain : index ∉ later := fun hindex => hkeys index hindex rfl
  -- Behind its place the index is installed, and only the later ones are left to do.
  have hrest : ∃ before, (final.collectionOrEmpty name).indexes = later.foldl installIn before ∧
      index ∈ before := by
    rw [indexes_of_createIndexes hcreated]
    rcases hplace with ⟨hindex, rfl⟩ | ⟨front, rfl⟩
    · exact ⟨_, rfl, hindex⟩
    · rw [List.foldl_append, List.foldl_cons]
      exact ⟨_, rfl, mem_installIn.mpr (.inr rfl)⟩
  have hindexName : index.name = none := by
    apply hunnamed index
    rcases hplace with ⟨hindex, -⟩ | ⟨front, rfl⟩
    · exact List.mem_append_left _ hindex
    · simp
  have hlaterNames : ∀ other ∈ later, other.name = none := by
    intro other hother
    apply hunnamed other
    rcases hplace with ⟨-, rfl⟩ | ⟨front, rfl⟩
    · exact List.mem_append_right _ hother
    · simp [hother]
  have hiff : index ∈ (final.collectionOrEmpty name).indexes ↔
      ∀ other ∈ later, keysName other.keys ≠ keysName index.keys := by
    obtain ⟨before, hfinal, hindex⟩ := hrest
    rw [hfinal, mem_foldl_installIn hagain, and_iff_right hindex]
    refine forall₂_congr fun other hother => ?_
    rw [resolvedName_of_unnamed hindexName, resolvedName_of_unnamed (hlaterNames other hother)]
  refine ⟨hiff, fun hlegible => hiff.mpr fun other hother hname => ?_⟩
  exact hkeys other hother ((keysName_inj (hlegible other hother)).mp hname.symm).symm

/-- A unique index of the name `a_1_b_1` is replaced by one of two other keys, which stays beside a
    third. -/
theorem mem_indexes_of_unnamed_pair :
    let up : Value := .int32 1
    let single : IndexSpec := ⟨[("a_1_b", up)], none, true⟩
    let pair : IndexSpec := ⟨[("a", up), ("b", up)], none, true⟩
    let email : IndexSpec := ⟨[("email", up)], none, true⟩
    let doc : Document := [("_id", up), ("email", .string "x")]
    let store : Store := ⟨[("users", ⟨[doc], none, [single]⟩)], 0⟩
    let final : Store := ⟨[("users", ⟨[doc], none, [pair, email]⟩)], 0⟩
    createIndexes "users" [pair, email] store = (.ok (), final) ∧
      single ∉ (final.collectionOrEmpty "users").indexes ∧
      pair ∈ (final.collectionOrEmpty "users").indexes := by
  intro up single pair email doc store final
  have hcreated : createIndexes "users" [pair, email] store = (.ok (), final) := by rfl
  have hunnamed : ∀ spec ∈ (store.collectionOrEmpty "users").indexes ++ [pair, email],
      spec.name = none := by
    show ∀ spec ∈ [single, pair, email], spec.name = none
    simp [single, pair, email]
  refine ⟨hcreated, ?_, ?_⟩
  · have hkeys : ∀ other ∈ [pair, email], other.keys ≠ single.keys := by simp [single, pair, email]
    rw [(mem_indexes_of_unnamed hcreated hunnamed (.inl ⟨List.mem_cons_self, rfl⟩) hkeys).1]
    intro hnames
    exact hnames pair List.mem_cons_self (by decide)
  · have hkeys : ∀ other ∈ [email], other.keys ≠ pair.keys := by simp [pair, email]
    apply (mem_indexes_of_unnamed hcreated hunnamed (.inr ⟨[], rfl⟩) hkeys).2
    simp only [List.forall_mem_singleton]
    exact legible_of_integers (by simp [pair, email, up]) (by decide)

end Store

end DocQuery
