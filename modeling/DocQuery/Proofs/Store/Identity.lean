import DocQuery.Proofs.Engine.Predicate
import DocQuery.Proofs.Engine.Update
import DocQuery.Proofs.Store.Update
import DocQuery.Proofs.Value.Same

/-!
# Identities under updates

An update may write at the identity of a document, or below it, and the collection takes the result
if the identity is still the same.  The same it is but for the order of fields and the signs of
zeros, and these two an update can change.  An identity in which neither occurs is kept as it is, and
so is every identity that the update does not name.
-/

namespace DocQuery

/-- What an update leaves of the identity of a document. -/
structure Document.KeepsId (before update after : Document) : Prop where
  /-- At most the order of fields in it and the signs of zeros are other ones. -/
  same : after.id? = before.id? ∨ Value.sameOption after.id? before.id? = true
  /-- An update that does not name the identity, or a path below it, does not touch it. -/
  of_apart : (∀ path ∈ Update.paths update, Path.Apart path idName) → after.id? = before.id?
  /-- Without two fields to change places the identity stays equal to what it was. -/
  equal : ∀ id, before.id? = some id → id.within Value.hasOneOrder = true →
    ∃ kept, after.id? = some kept ∧ kept.equal id = true
  /-- Without a zero to change its sign either it stays what it was. -/
  unchanged : (∀ id, before.id? = some id →
    id.within Value.hasOneOrder = true ∧ id.within Value.isNotZero = true) → after.id? = before.id?

namespace Document

variable {update doc next : Document}

theorem keepsId_of_eq (h : next.id? = doc.id?) : doc.KeepsId update next where
  same := .inl h
  of_apart _ := h
  equal id hid _ := ⟨id, h.trans hid, id.equal_self⟩
  unchanged _ := h

theorem keepsId_of_updated (hupdated : doc.updated update = .ok next)
    (hsame : Value.sameOption next.id? doc.id? = true) : doc.KeepsId update next where
  same := .inr hsame
  of_apart := by
    intro hapart
    rw [← getPath?_idName, getPath?_updated_of_apart hupdated hapart, getPath?_idName]
  equal := by
    intro id hid hone
    rw [hid] at hsame
    obtain ⟨kept, hkept, hsame⟩ := Value.exists_of_sameOption hsame
    exact ⟨kept, hkept, Value.equal_of_same hsame hone⟩
  unchanged := by
    intro hid
    cases hdoc : doc.id? with
    | none =>
      rw [hdoc] at hsame
      exact Value.eq_none_of_sameOption hsame
    | some id =>
      rw [hdoc] at hsame
      obtain ⟨hone, hzero⟩ := hid id hdoc
      obtain ⟨kept, hkept, hsame⟩ := Value.exists_of_sameOption hsame
      rw [hkept, Value.eq_of_same hsame hone hzero]

end Document

namespace Collection

variable {collection : Collection} {filter update : Document}

/-- A document that an update has gone through keeps its identity. -/
theorem Reaches.keepsId {front rest : List Document}
    (h : collection.Reaches filter update front rest) {doc : Document} (hdoc : doc ∈ front) :
    doc.KeepsId update (doc.afterUpdate filter update) := by
  induction h with
  | start => cases hdoc
  | step _ heffect htaken ih =>
    rcases List.mem_append.mp hdoc with hfront | hlast
    · exact ih hfront
    · rw [List.mem_singleton.mp hlast, Document.afterUpdate_of_effect heffect]
      rename_i effect _
      cases effect with
      | passed => exact Document.keepsId_of_eq rfl
      | unchanged => exact Document.keepsId_of_eq rfl
      | changed next =>
        refine Document.keepsId_of_updated (Document.effect_eq_changed heffect) ?_
        have hnone := htaken next rfl
        unfold refusal? at hnone
        split at hnone
        · assumption
        · cases hnone

end Collection

namespace Store

/-- Whatever an update returns, there are as many documents as before, and in each place stands one
    with the identity of the document that was there: it is the same, it is unchanged where the
    update does not name it, and it is unchanged, too, where it holds neither a document of two
    fields nor a double of zero. -/
theorem ids_of_update (name : String) (filter update : Document) (store : Store) :
    List.Forall₂ (fun before after => before.KeepsId update after) (store.documents name)
      ((updateMany name filter update store).2.documents name) := by
  have hrefl : ∀ docs : List Document,
      List.Forall₂ (fun before after => before.KeepsId update after) docs docs :=
    fun docs => List.forall₂_same.mpr fun doc _ => Document.keepsId_of_eq rfl
  rw [updateMany_eq]
  cases hcollection : store.collection? name with
  | none => exact hrefl _
  | some collection =>
    obtain ⟨front, rest, result, hsplit, hreaches, -, hrun⟩ :=
      collection.exists_end_of_updateMany filter update
    dsimp only
    rw [documents_of_some hcollection, documents_of_some (collection?_put_self store name _), hrun,
      hsplit]
    refine List.rel_append ?_ (hrefl rest)
    rw [List.forall₂_map_right_iff, List.forall₂_same]
    intro doc hdoc
    exact hreaches.keepsId hdoc

/-- An update that names an identity, which is a document of one field, and changes another field. -/
theorem ids_of_update_nested :
    let update : Document := [("$set", .document [("_id.key", .int32 1), ("level", .int32 7)])]
    let doc : Document := [("_id", .document [("key", .int32 1)]), ("level", .int32 2)]
    let store : Store := ⟨[("users", ⟨[doc], none, []⟩)], 0⟩
    ∃ after, (updateMany "users" [] update store).2.documents "users" = [after] ∧
      (after.valueAt "level").equal (.int32 7) = true ∧
      after.id? = some (.document [("key", .int32 1)]) := by
  intro update doc store
  have hids := ids_of_update "users" [] update store
  have hlevels : ((updateMany "users" [] update store).2.documents "users").map (fun after =>
      (after.valueAt "level").equal (.int32 7)) = [true] := by
    decide +kernel
  obtain ⟨after, hdocs, hlevel⟩ := List.map_eq_singleton_iff.mp hlevels
  rw [hdocs] at hids
  have hdoc : store.documents "users" = [doc] := rfl
  rw [hdoc] at hids
  obtain ⟨hkeeps, -⟩ := List.forall₂_cons.mp hids
  refine ⟨after, hdocs, hlevel, hkeeps.unchanged ?_⟩
  rintro id ⟨⟩
  exact ⟨rfl, rfl⟩

/-- Two fields of an identity change places with an update that changes another field. -/
example :
    let update : Document := [("$set", .document
      [("_id", .document [("b", .int32 2), ("a", .int32 1)]), ("level", .int32 7)])]
    let doc : Document :=
      [("_id", .document [("a", .int32 1), ("b", .int32 2)]), ("level", .int32 2)]
    let store : Store := ⟨[("users", ⟨[doc], none, []⟩)], 0⟩
    ((updateMany "users" [] update store).2.documents "users").map (fun after =>
      (after.getDocument? "_id").map Document.names) = [some ["b", "a"]] := by
  decide +kernel

end Store

end DocQuery
