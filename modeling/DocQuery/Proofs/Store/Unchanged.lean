import DocQuery.Proofs.Store.Update
import DocQuery.Proofs.Value.Same

/-!
# Updates that change nothing

A matched document that an update leaves exactly as it is adds one to the matched documents of the
report and nothing else, and the update goes on behind it.  Whether a document is changed is told by
sameness, though.  A document with a double in it that has no numeric value is not the same as
itself, so it counts as changed, and the collection may refuse it.
-/

namespace DocQuery

/-- The report of two parts of an update, one behind the other. -/
def UpdateOutcome.plus (first second : UpdateOutcome) : UpdateOutcome where
  matched := first.matched + second.matched
  modified := first.modified + second.modified
  writeErrors := first.writeErrors ++ second.writeErrors

theorem UpdateOutcome.plus_nothing (outcome : UpdateOutcome) :
    outcome.plus .nothing = outcome := by
  simp [plus, nothing]

theorem UpdateOutcome.plus_assoc (first second third : UpdateOutcome) :
    (first.plus second).plus third = first.plus (second.plus third) := by
  simp [plus, Nat.add_assoc]

/-- The report of a document that is matched and not modified. -/
def UpdateOutcome.matchedOnly : UpdateOutcome := ⟨1, 0, []⟩

theorem UpdateOutcome.after_eq_plus (outcome : UpdateOutcome) (effect : UpdateEffect) :
    outcome.after effect = outcome.plus (UpdateOutcome.nothing.after effect) := by
  simp [after, plus, nothing]

/-- What an update is to a matched document that it leaves as it is. -/
theorem Document.effect_of_updated_self {doc filter update : Document}
    (hmatch : doc.satisfies filter = .ok true) (hupdated : doc.updated update = .ok doc)
    (hnames : (Value.document doc).within Value.hasDistinctNames = true) :
    doc.effect filter update =
      .ok (if (Value.document doc).within Value.isNotNaN then .unchanged else .changed doc) := by
  have hsame : doc.same doc = (Value.document doc).within Value.isNotNaN :=
    Value.same_self _ hnames
  rw [effect, hmatch]
  show (doc.updated update >>= fun next => pure (if next.same doc then _ else _)) = _
  rw [hupdated]
  show Except.ok (if doc.same doc then _ else _) = _
  rw [hsame]

namespace Collection

variable {filter update : Document}

/-- An update of the documents that are left adds to whatever report it starts with. -/
theorem updateFrom_eq_plus (collection : Collection) (filter update : Document)
    (done : List Document) (outcome : UpdateOutcome) (rest : List Document) :
    collection.updateFrom filter update done outcome rest =
      ((collection.updateFrom filter update done .nothing rest).1,
        (collection.updateFrom filter update done .nothing rest).2.map outcome.plus) := by
  induction rest generalizing done outcome with
  | nil => exact Prod.ext rfl (congrArg Except.ok outcome.plus_nothing.symm)
  | cons doc rest ih =>
    rcases collection.effect_cases filter update doc (done ++ rest) with
      ⟨fault, heffect⟩ | ⟨effect, heffect, htaken⟩ | ⟨next, rejection, heffect, hrejection⟩
    · rw [updateFrom_of_error heffect, updateFrom_of_error heffect]
      rfl
    · rw [updateFrom_of_taken heffect htaken, updateFrom_of_taken heffect htaken, ih,
        ih _ (UpdateOutcome.nothing.after effect), outcome.after_eq_plus]
      refine Prod.ext rfl ?_
      dsimp only
      rcases (collection.updateFrom filter update _ .nothing rest).2 with fault | behind
      · rfl
      · exact congrArg Except.ok (UpdateOutcome.plus_assoc _ _ behind)
    · rw [updateFrom_of_refused heffect hrejection, updateFrom_of_refused heffect hrejection]
      simp [UpdateOutcome.plus, UpdateOutcome.nothing, Except.map]

/-- The documents that an update has gone through stay as it has left them. -/
theorem exists_updateFrom_eq_append (collection : Collection) (filter update : Document)
    (done : List Document) (outcome : UpdateOutcome) (rest : List Document) :
    ∃ left, (collection.updateFrom filter update done outcome rest).1 = done ++ left := by
  induction rest generalizing done outcome with
  | nil => exact ⟨[], (List.append_nil done).symm⟩
  | cons doc rest ih =>
    rcases collection.effect_cases filter update doc (done ++ rest) with
      ⟨fault, heffect⟩ | ⟨effect, heffect, htaken⟩ | ⟨next, rejection, heffect, hrejection⟩
    · exact ⟨doc :: rest, by rw [updateFrom_of_error heffect]⟩
    · obtain ⟨left, hleft⟩ := ih (done ++ [doc.afterUpdate filter update]) (outcome.after effect)
      refine ⟨doc.afterUpdate filter update :: left, ?_⟩
      rw [updateFrom_of_taken heffect htaken, hleft, ← List.append_cons]
    · exact ⟨doc :: rest, by rw [updateFrom_of_refused heffect hrejection]⟩

/-- An update ends at one of the documents in front, or goes through them and on behind them. -/
theorem ends_or_goes_on (collection : Collection) (filter update : Document)
    (done front tail : List Document) :
    (∃ passed doc others result, front = passed ++ doc :: others ∧
      collection.Ends filter update (done ++ passed) (doc :: (others ++ tail)) result ∧
      (collection.updateFrom filter update (done.map (Document.afterUpdate · filter update))
        (reportOf filter update done) (front ++ tail)).2 = result) ∨
    collection.updateFrom filter update (done.map (Document.afterUpdate · filter update))
        (reportOf filter update done) (front ++ tail) =
      collection.updateFrom filter update
        ((done ++ front).map (Document.afterUpdate · filter update))
        (reportOf filter update (done ++ front)) tail := by
  induction front generalizing done with
  | nil =>
    right
    rw [List.append_nil, List.nil_append]
  | cons doc front ih =>
    rw [List.cons_append]
    rcases collection.effect_cases filter update doc
        (done.map (Document.afterUpdate · filter update) ++ (front ++ tail)) with
      ⟨fault, heffect⟩ | ⟨effect, heffect, htaken⟩ | ⟨next, rejection, heffect, hrejection⟩
    · refine .inl ⟨[], doc, front, .error fault, rfl, ?_, ?_⟩
      · rw [List.append_nil]
        exact .failed _ heffect
      · rw [updateFrom_of_error heffect]
    · have hstep : done ++ doc :: front = done ++ [doc] ++ front := List.append_cons done doc front
      rw [updateFrom_of_taken heffect htaken, ← reportOf_concat done heffect, hstep]
      have hmap : (done ++ [doc]).map (Document.afterUpdate · filter update) =
          done.map (Document.afterUpdate · filter update) ++ [doc.afterUpdate filter update] := by
        rw [List.map_append, List.map_singleton]
      rw [← hmap]
      rcases ih (done ++ [doc]) with ⟨passed, other, others, result, rfl, hends, hresult⟩ | hgoes
      · refine .inl ⟨doc :: passed, other, others, result, rfl, ?_, hresult⟩
        rw [List.append_cons]
        exact hends
      · exact .inr hgoes
    · refine .inl ⟨[], doc, front, _, rfl, ?_, rfl⟩
      rw [List.append_nil, updateFrom_of_refused heffect hrejection]
      exact .refused heffect hrejection

/-- An update of a collection ends at one of the documents in front of some place, or the report is
    that of the documents in front together with that of the rest. -/
theorem updateMany_append {collection : Collection} {front tail : List Document}
    (hdocs : collection.documents = front ++ tail) (filter update : Document) :
    (∃ passed doc others result, front = passed ++ doc :: others ∧
      collection.Ends filter update passed (doc :: (others ++ tail)) result ∧
      (collection.updateMany filter update).2 = result) ∨
    ∃ documents result,
      collection.updateFrom filter update (front.map (Document.afterUpdate · filter update))
        .nothing tail = (documents, result) ∧
      collection.updateMany filter update =
        ({ collection with documents }, result.map (reportOf filter update front).plus) := by
  have hupdate : collection.updateMany filter update =
      ({ collection with
          documents := (collection.updateFrom filter update [] .nothing (front ++ tail)).1 },
        (collection.updateFrom filter update [] .nothing (front ++ tail)).2) := by
    rw [updateMany, hdocs]
  rcases collection.ends_or_goes_on filter update [] front tail with
    ⟨passed, doc, others, result, hfront, hends, hresult⟩ | hgoes
  · refine .inl ⟨passed, doc, others, result, hfront, hends, ?_⟩
    rw [hupdate]
    exact hresult
  · have hgoes : collection.updateFrom filter update [] .nothing (front ++ tail) =
        collection.updateFrom filter update (front.map (Document.afterUpdate · filter update))
          (reportOf filter update front) tail := hgoes
    refine .inr ⟨_, _, rfl, ?_⟩
    rw [hupdate, hgoes, updateFrom_eq_plus]

/-- A matched document that is left as it is is stepped over with a report of its own. -/
theorem updateFrom_of_unchanged {collection : Collection} {doc : Document}
    (heffect : doc.effect filter update = .ok .unchanged) (done rest : List Document) :
    collection.updateFrom filter update done .nothing (doc :: rest) =
      ((collection.updateFrom filter update (done ++ [doc]) .nothing rest).1,
        (collection.updateFrom filter update (done ++ [doc]) .nothing rest).2.map
          UpdateOutcome.matchedOnly.plus) := by
  have htaken : collection.Takes doc .unchanged (done ++ rest) := nofun
  rw [updateFrom_of_taken heffect htaken, updateFrom_eq_plus,
    Document.afterUpdate_of_effect heffect]
  rfl

end Collection

namespace Store

variable {name : String} {filter update : Document} {store final : Store}

/-- A matched document that the update leaves exactly as it is, all doubles in it being numbers, in
    an update that succeeds.  Either the update has ended in front of it, where the collection
    refused another document.  Or the report is that of the documents in front, one matched document
    with neither a modification nor a write error, and the report of the update that goes on behind
    the document, which stands where it stood. -/
theorem counted_of_unchanged {front rest : List Document} {doc : Document}
    {outcome : UpdateOutcome} (h : updateMany name filter update store = (.ok outcome, final))
    (hdocs : store.documents name = front ++ doc :: rest)
    (hmatch : doc.satisfies filter = .ok true) (hupdated : doc.updated update = .ok doc)
    (hnames : (Value.document doc).within Value.hasDistinctNames = true)
    (hnumbers : (Value.document doc).within Value.isNotNaN = true) :
    (∃ passed refused others, front = passed ++ refused :: others ∧
      (store.collectionOrEmpty name).Ends filter update passed
        (refused :: (others ++ doc :: rest)) (.ok outcome)) ∨
    ∃ left behind,
      (store.collectionOrEmpty name).updateFrom filter update
          (front.map (Document.afterUpdate · filter update) ++ [doc]) .nothing rest =
        (front.map (Document.afterUpdate · filter update) ++ doc :: left, .ok behind) ∧
      final.documents name = front.map (Document.afterUpdate · filter update) ++ doc :: left ∧
      outcome = (Collection.reportOf filter update front).plus
        (UpdateOutcome.matchedOnly.plus behind) := by
  cases hcollection : store.collection? name with
  | none =>
    rw [documents, hcollection] at hdocs
    simp at hdocs
  | some collection =>
    rw [updateMany_eq, hcollection, Prod.mk.injEq, mapError_eq_ok] at h
    obtain ⟨hresult, rfl⟩ := h
    rw [documents_of_some hcollection] at hdocs
    rw [collectionOrEmpty_of_some hcollection,
      documents_of_some (collection?_put_self store name _)]
    rcases Collection.updateMany_append hdocs filter update with
      ⟨passed, refused, others, result, hfront, hends, hended⟩ | ⟨documents, result, hrun, hgoes⟩
    · rw [hresult] at hended
      exact .inl ⟨passed, refused, others, hfront, hended ▸ hends⟩
    · right
      have heffect : doc.effect filter update = .ok .unchanged := by
        rw [Document.effect_of_updated_self hmatch hupdated hnames, if_pos hnumbers]
      rw [Collection.updateFrom_of_unchanged heffect, Prod.mk.injEq] at hrun
      obtain ⟨rfl, rfl⟩ := hrun
      rw [hgoes] at hresult ⊢
      obtain ⟨both, hboth, houtcome⟩ := map_eq_ok.mp hresult
      obtain ⟨behind, hbehind, rfl⟩ := map_eq_ok.mp hboth
      obtain ⟨left, hleft⟩ := collection.exists_updateFrom_eq_append filter update
        (front.map (Document.afterUpdate · filter update) ++ [doc]) .nothing rest
      rw [← List.append_cons] at hleft
      exact ⟨left, behind, Prod.ext hleft hbehind, hleft, houtcome.symm⟩

/-- Three users that are to get the seventh level, of whom the second one has it. -/
theorem counted_of_unchanged_levels :
    let update : Document := [("$set", .document [("level", .int32 7)])]
    let first : Document := [("_id", .int32 1), ("level", .int32 2)]
    let second : Document := [("_id", .int32 2), ("level", .int32 7)]
    let third : Document := [("_id", .int32 3), ("level", .double (.ofInt 7))]
    let store : Store := ⟨[("users", ⟨[first, second, third], none, []⟩)], 0⟩
    ∃ outcome final behind left, updateMany "users" [] update store = (.ok outcome, final) ∧
      outcome.matched = 3 ∧ outcome.modified = 2 ∧
      final.documents "users" = [first.afterUpdate [] update] ++ second :: left ∧
      outcome = (Collection.reportOf [] update [first]).plus
        (UpdateOutcome.matchedOnly.plus behind) := by
  intro update first second third store
  have hcounts : (updateMany "users" [] update store).1.toOption.map (fun outcome =>
      (outcome.matched, outcome.modified, outcome.writeErrors.length)) = some (3, 2, 0) := by
    decide +kernel
  rcases hresult : updateMany "users" [] update store with ⟨failure | outcome, final⟩
  · rw [hresult] at hcounts
    cases hcounts
  · rw [hresult] at hcounts
    have hcounts := Option.some.inj hcounts
    simp only [Prod.mk.injEq] at hcounts
    obtain ⟨hmatched, hmodified, herrors⟩ := hcounts
    have hdocs : store.documents "users" = [first] ++ second :: [third] := rfl
    rcases counted_of_unchanged hresult hdocs rfl rfl (by decide) (by decide) with
      ⟨passed, refused, others, -, hends⟩ | ⟨left, behind, -, hfinal, houtcome⟩
    · cases hends
      cases herrors
    · exact ⟨outcome, final, behind, left, rfl, hmatched, hmodified, hfinal, houtcome⟩

end Store

end DocQuery
