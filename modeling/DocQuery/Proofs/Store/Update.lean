import DocQuery.Proofs.Store.Basic

/-!
# How far an update comes

An update looks at the documents of a collection in order and puts each changed one in place at
once.  What it makes of a document is decided by the document alone, and the collection only decides
whether it takes a changed document beside the others.  So an update goes through the documents in
front of some place as if it met each of them alone.  There it is at the end, or the collection
refuses the next document, or the filter or the update fails on it; nothing is undone.
-/

namespace DocQuery

/-- What an update is to a document that it does not fail on. -/
inductive UpdateEffect where
  /-- The document does not satisfy the filter. -/
  | passed
  /-- The document satisfies the filter, and the update reports no change. -/
  | unchanged
  | changed (next : Document)

namespace UpdateEffect

/-- What is put in place of the document. -/
def replacement? : UpdateEffect → Option Document
  | .passed | .unchanged => none
  | .changed next => some next

/-- Whether the document satisfies the filter. -/
def isMatch : UpdateEffect → Bool
  | .passed => false
  | .unchanged | .changed _ => true

end UpdateEffect

/-- The report after one more document that is not refused. -/
def UpdateOutcome.after (outcome : UpdateOutcome) (effect : UpdateEffect) :
    UpdateOutcome :=
  { outcome with
    matched := outcome.matched + effect.isMatch.toNat
    modified := outcome.modified + effect.replacement?.isSome.toNat }

namespace Document

/-- The effect of an update on a document, whatever stands beside it. -/
def effect (doc filter update : Document) : Run UpdateEffect := do
  if ← doc.satisfies filter then
    let next ← doc.updated update
    return if next.same doc then .unchanged else .changed next
  else return .passed

/-- What an update puts in place of a document, if it changes it. -/
def replacement? (doc filter update : Document) : Option Document :=
  (doc.effect filter update).toOption.bind UpdateEffect.replacement?

/-- The document after an update: what stands in its place, or the document itself. -/
def afterUpdate (doc filter update : Document) : Document :=
  (doc.replacement? filter update).getD doc

variable {doc filter update : Document} {effect : UpdateEffect}

theorem isMatch_of_effect (h : doc.effect filter update = .ok effect) :
    doc.isMatch filter = effect.isMatch := by
  obtain ⟨holds, hholds, h⟩ := bind_eq_ok.mp h
  rw [isMatch_of_satisfies hholds]
  cases holds with
  | false =>
    cases h
    rfl
  | true =>
    obtain ⟨next, -, h⟩ := bind_eq_ok.mp h
    have heffect := pure_eq_ok.mp h
    split at heffect <;> subst heffect <;> rfl

theorem effect_eq_changed {next : Document} (h : doc.effect filter update = .ok (.changed next)) :
    doc.updated update = .ok next := by
  obtain ⟨holds, -, h⟩ := bind_eq_ok.mp h
  cases holds with
  | false => cases h
  | true =>
    obtain ⟨result, hresult, h⟩ := bind_eq_ok.mp h
    have heffect := pure_eq_ok.mp h
    split at heffect
    · cases heffect
    · cases heffect
      exact hresult

theorem replacement?_of_effect (h : doc.effect filter update = .ok effect) :
    doc.replacement? filter update = effect.replacement? := by
  rw [replacement?, h]
  rfl

theorem afterUpdate_of_effect (h : doc.effect filter update = .ok effect) :
    doc.afterUpdate filter update = effect.replacement?.getD doc := by
  rw [afterUpdate, replacement?_of_effect h]

end Document

namespace Collection

variable {collection : Collection} {filter update doc next : Document} {effect : UpdateEffect}
  {fault : Fault} {rejection : Rejection}

/-! ## One document -/

/-- Why a collection does not take an updated document in place of the stored one, beside the others,
    if it does not. -/
def refusal? (collection : Collection) (doc next : Document) (others : List Document) :
    Option Rejection :=
  if Value.sameOption next.id? doc.id? then collection.rejection? next others
  else some .immutableId

/-- Whether a collection takes what an effect puts in place of a document. -/
def Takes (collection : Collection) (doc : Document) (effect : UpdateEffect)
    (others : List Document) : Prop :=
  ∀ next, effect = .changed next → collection.refusal? doc next others = none

/-- What becomes of a document under an effect. -/
def stepOf (collection : Collection) (doc : Document) (others : List Document) :
    UpdateEffect → UpdateStep
  | .passed => .passed
  | .unchanged => .unchanged
  | .changed next =>
      match collection.refusal? doc next others with
      | some rejection => .rejected rejection
      | none => .changed next

/-- A step is the effect on the document, and for a changed one the answer of the collection. -/
theorem updateStep_eq (collection : Collection) (filter update doc : Document)
    (others : List Document) :
    collection.updateStep filter update doc others =
      (doc.effect filter update).map (collection.stepOf doc others) := by
  unfold updateStep Document.effect
  rcases doc.satisfies filter with fault | holds
  · rfl
  cases holds with
  | false => rfl
  | true =>
    rcases doc.updated update with fault | next
    · rfl
    by_cases hsame : next.same doc = true
    · simp [bind, Except.bind, pure, Except.pure, Except.map, stepOf, hsame]
    by_cases hid : Value.sameOption next.id? doc.id? = true
    · simp only [bind, Except.bind, pure, Except.pure, Except.map, stepOf, refusal?, if_neg hsame,
        hid, Bool.not_true, Bool.false_eq_true, ↓reduceIte]
      cases collection.rejection? next others <;> rfl
    · simp [bind, Except.bind, pure, Except.pure, Except.map, stepOf, refusal?, hsame, hid]

/-- All that can happen at a document: the filter or the update fails on it, or the collection takes
    or refuses what the update makes of it. -/
theorem effect_cases (collection : Collection) (filter update doc : Document)
    (others : List Document) :
    (∃ fault, doc.effect filter update = .error fault) ∨
      (∃ effect, doc.effect filter update = .ok effect ∧ collection.Takes doc effect others) ∨
      ∃ next rejection, doc.effect filter update = .ok (.changed next) ∧
        collection.refusal? doc next others = some rejection := by
  cases heffect : doc.effect filter update with
  | error fault => exact .inl ⟨fault, rfl⟩
  | ok effect =>
    right
    by_cases htaken : collection.Takes doc effect others
    · exact .inl ⟨effect, rfl, htaken⟩
    · obtain ⟨next, hnext⟩ := not_forall.mp htaken
      obtain ⟨rfl, hrefused⟩ := Classical.not_imp.mp hnext
      obtain ⟨rejection, hrejection⟩ := Option.ne_none_iff_exists'.mp hrefused
      exact .inr ⟨next, rejection, rfl, hrejection⟩

variable {done rest : List Document}

theorem updateFrom_of_error (h : doc.effect filter update = .error fault)
    (outcome : UpdateOutcome) :
    collection.updateFrom filter update done outcome (doc :: rest) =
      (done ++ doc :: rest, .error fault) := by
  rw [updateFrom, updateStep_eq, h]
  rfl

theorem updateFrom_of_refused (h : doc.effect filter update = .ok (.changed next))
    (hrefused : collection.refusal? doc next (done ++ rest) = some rejection)
    (outcome : UpdateOutcome) :
    collection.updateFrom filter update done outcome (doc :: rest) =
      (done ++ doc :: rest,
        .ok { outcome with
          matched := outcome.matched + 1
          writeErrors := outcome.writeErrors ++ [rejection.report] }) := by
  have hstep : collection.stepOf doc (done ++ rest) (.changed next) = .rejected rejection := by
    rw [stepOf, hrefused]
  rw [updateFrom, updateStep_eq, h, Except.map, hstep]

theorem updateFrom_of_taken (h : doc.effect filter update = .ok effect)
    (htaken : collection.Takes doc effect (done ++ rest)) (outcome : UpdateOutcome) :
    collection.updateFrom filter update done outcome (doc :: rest) =
      collection.updateFrom filter update (done ++ [doc.afterUpdate filter update])
        (outcome.after effect) rest := by
  have hstep : collection.stepOf doc (done ++ rest) effect = match effect with
      | .passed => .passed
      | .unchanged => .unchanged
      | .changed next => .changed next := by
    cases effect with
    | changed next => rw [stepOf, htaken next rfl]
    | _ => rfl
  rw [updateFrom, updateStep_eq, h, Document.afterUpdate_of_effect h, Except.map, hstep]
  cases effect <;> rfl

/-! ## All documents -/

/-- The report of an update that has gone through some documents. -/
def reportOf (filter update : Document) (front : List Document) : UpdateOutcome where
  matched := (front.filter fun doc => doc.isMatch filter).length
  modified := (front.filter fun doc => (doc.replacement? filter update).isSome).length
  writeErrors := []

/-- An update has gone through the documents in front and stands before the rest: it has failed on
    none of them, and the collection has taken what was put in place of each, beside the others as
    they were then. -/
inductive Reaches (collection : Collection) (filter update : Document) :
    List Document → List Document → Prop
  | start (docs : List Document) : Reaches collection filter update [] docs
  | step {front rest : List Document} {doc : Document} {effect : UpdateEffect}
      (hfront : Reaches collection filter update front (doc :: rest))
      (heffect : doc.effect filter update = .ok effect)
      (htaken : collection.Takes doc effect
        (front.map (Document.afterUpdate · filter update) ++ rest)) :
      Reaches collection filter update (front ++ [doc]) rest

/-- Where an update that has gone through the documents in front ends, and with what result: there
    are no more documents, it fails on the next one, or the collection refuses the next one. -/
inductive Ends (collection : Collection) (filter update : Document) (front : List Document) :
    List Document → Run UpdateOutcome → Prop
  | finished : Ends collection filter update front [] (.ok (reportOf filter update front))
  | failed {doc : Document} {fault : Fault} (rest : List Document)
      (heffect : doc.effect filter update = .error fault) :
      Ends collection filter update front (doc :: rest) (.error fault)
  | refused {doc next : Document} {rest : List Document} {rejection : Rejection}
      (heffect : doc.effect filter update = .ok (.changed next))
      (hrefused : collection.refusal? doc next
        (front.map (Document.afterUpdate · filter update) ++ rest) = some rejection) :
      Ends collection filter update front (doc :: rest)
        (.ok { reportOf filter update front with
          matched := (reportOf filter update front).matched + 1
          writeErrors := [rejection.report] })

theorem reportOf_concat (front : List Document) (h : doc.effect filter update = .ok effect) :
    reportOf filter update (front ++ [doc]) = (reportOf filter update front).after effect := by
  have hmatch := Document.isMatch_of_effect h
  have hreplaced := Document.replacement?_of_effect h
  unfold reportOf UpdateOutcome.after
  simp only [List.filter_append, List.length_append, List.filter_singleton, hmatch, hreplaced]
  cases effect <;> rfl

/-- Wherever an update stands, it goes on to an end. -/
theorem Reaches.exists_end {front rest : List Document}
    (h : collection.Reaches filter update front rest) :
    ∃ passed left result, front ++ rest = passed ++ left ∧
      collection.Reaches filter update passed left ∧
      collection.Ends filter update passed left result ∧
      collection.updateFrom filter update (front.map (Document.afterUpdate · filter update))
          (reportOf filter update front) rest =
        (passed.map (Document.afterUpdate · filter update) ++ left, result) := by
  induction rest generalizing front with
  | nil =>
    refine ⟨front, [], _, rfl, h, .finished, ?_⟩
    rw [updateFrom, List.append_nil]
  | cons doc rest ih =>
    rcases collection.effect_cases filter update doc
        (front.map (Document.afterUpdate · filter update) ++ rest) with
      ⟨fault, heffect⟩ | ⟨effect, heffect, htaken⟩ | ⟨next, rejection, heffect, hrejection⟩
    · exact ⟨front, doc :: rest, _, rfl, h, .failed rest heffect, updateFrom_of_error heffect _⟩
    · obtain ⟨passed, left, result, hsplit, hreaches, hends, hrun⟩ := ih (h.step heffect htaken)
      refine ⟨passed, left, result, ?_, hreaches, hends, ?_⟩
      · rw [← hsplit, List.append_assoc, List.singleton_append]
      · rw [updateFrom_of_taken heffect htaken, ← reportOf_concat front heffect, ← hrun,
          List.map_append, List.map_singleton]
    · refine ⟨front, doc :: rest, _, rfl, h, .refused heffect hrejection, ?_⟩
      rw [updateFrom_of_refused heffect hrejection]
      rfl

/-- An update of a collection goes through documents of it up to an end. -/
theorem exists_end_of_updateMany (collection : Collection) (filter update : Document) :
    ∃ front rest result, collection.documents = front ++ rest ∧
      collection.Reaches filter update front rest ∧
      collection.Ends filter update front rest result ∧
      collection.updateMany filter update =
        ({ collection with
          documents := front.map (Document.afterUpdate · filter update) ++ rest }, result) := by
  have hstart : collection.Reaches filter update [] collection.documents := .start _
  obtain ⟨front, rest, result, hsplit, hreaches, hends, hrun⟩ := hstart.exists_end
  refine ⟨front, rest, result, hsplit, hreaches, hends, ?_⟩
  have hrun : collection.updateFrom filter update [] .nothing collection.documents = _ := hrun
  rw [updateMany, hrun]

end Collection

namespace Store

variable {name : String} {filter update : Document} {store final : Store}

/-- How far an update that succeeds has come.  Each document in front of some place is updated by
    itself: it is the result of the update if it satisfied the filter and the update changed it, and
    as it was otherwise.  From that place on all documents are as they were.  Either there are none,
    or the first of them satisfies the filter and is refused by the collection, the documents in
    front having been taken, and this is the one write error.  The report counts the documents that
    satisfy the filter up to and with the refused one, and those that are replaced.  The validator,
    the indexes and all other collections stay. -/
theorem updated_up_to_refusal {outcome : UpdateOutcome}
    (h : updateMany name filter update store = (.ok outcome, final)) :
    ∃ front rest, store.documents name = front ++ rest ∧
      (store.collectionOrEmpty name).Reaches filter update front rest ∧
      (final.collection? name = (store.collection? name).map fun collection =>
        { collection with
          documents := front.map (Document.afterUpdate · filter update) ++ rest }) ∧
      (∀ other ≠ name, final.collection? other = store.collection? other) ∧
      outcome.matched = ((front ++ rest.take 1).filter fun doc => doc.isMatch filter).length ∧
      outcome.modified =
        (front.filter fun doc => (doc.replacement? filter update).isSome).length ∧
      (rest = [] ∧ outcome.writeErrors = [] ∨
        ∃ doc others next rejection, rest = doc :: others ∧ doc.isMatch filter = true ∧
          doc.replacement? filter update = some next ∧
          (store.collectionOrEmpty name).refusal? doc next
            (front.map (Document.afterUpdate · filter update) ++ others) = some rejection ∧
          outcome.writeErrors = [rejection.report]) := by
  rw [updateMany_eq] at h
  cases hcollection : store.collection? name with
  | none =>
    rw [hcollection] at h
    cases h
    refine ⟨[], [], ?_, .start _, ?_, fun _ _ => rfl, rfl, rfl, .inl ⟨rfl, rfl⟩⟩
    · simp [documents, hcollection]
    · rw [hcollection]
      rfl
  | some collection =>
    obtain ⟨front, rest, result, hsplit, hreaches, hends, hrun⟩ :=
      collection.exists_end_of_updateMany filter update
    rw [hcollection, Prod.mk.injEq, hrun, mapError_eq_ok] at h
    obtain ⟨hresult, rfl⟩ := h
    dsimp only at hresult
    subst hresult
    rw [documents_of_some hcollection, collectionOrEmpty_of_some hcollection]
    refine ⟨front, rest, hsplit, hreaches, ?_, ?_, ?_⟩
    · exact collection?_put_self store name _
    · intro other hother
      exact collection?_put_of_ne store hother _
    · cases hends with
      | finished =>
        refine ⟨?_, rfl, .inl ⟨rfl, rfl⟩⟩
        rw [List.take_nil, List.append_nil]
        rfl
      | refused heffect hrefused =>
        rename_i doc next others rejection
        have hmatch := Document.isMatch_of_effect heffect
        have hreplaced := Document.replacement?_of_effect heffect
        refine ⟨?_, rfl, .inr ⟨doc, others, next, rejection, rfl, hmatch, hreplaced, hrefused, rfl⟩⟩
        simp [Collection.reportOf, hmatch, UpdateEffect.isMatch]

/-- Four users with different levels, of whom three are below the fifth and are to get the seventh:
    the first gets it, and the third is refused it. -/
theorem updated_up_to_refusal_levels :
    let filter : Document := [("level", .document [("$lt", .int32 5)])]
    let update : Document := [("$set", .document [("level", .int32 7)])]
    let docs : List Document := [[("_id", .int32 1), ("level", .int32 2)],
      [("_id", .int32 2), ("level", .int32 6)], [("_id", .int32 3), ("level", .int32 4)],
      [("_id", .int32 4), ("level", .int32 1)]]
    let store : Store :=
      ⟨[("users", ⟨docs, none, [⟨[("level", .int32 1)], none, true⟩]⟩)], 0⟩
    ∃ outcome final, updateMany "users" filter update store = (.ok outcome, final) ∧
      outcome.matched = 2 ∧ outcome.modified = 1 ∧
      ∃ front doc others, docs = front ++ doc :: others ∧ doc.isMatch filter = true ∧
        final.documents "users" =
          front.map (Document.afterUpdate · filter update) ++ doc :: others := by
  intro filter update docs store
  have hcounts : (updateMany "users" filter update store).1.toOption.map (fun outcome =>
      (outcome.matched, outcome.modified, outcome.writeErrors.length)) = some (2, 1, 1) := by
    decide +kernel
  rcases hresult : updateMany "users" filter update store with ⟨failure | outcome, final⟩
  · rw [hresult] at hcounts
    cases hcounts
  · rw [hresult] at hcounts
    have hcounts := Option.some.inj hcounts
    simp only [Prod.mk.injEq] at hcounts
    obtain ⟨hmatched, hmodified, herrors⟩ := hcounts
    obtain ⟨front, rest, hsplit, -, hfinal, -, -, -, hend⟩ := updated_up_to_refusal hresult
    rcases hend with ⟨-, hnone⟩ | ⟨doc, others, next, rejection, rfl, hmatch, -⟩
    · rw [hnone] at herrors
      cases herrors
    · refine ⟨outcome, final, rfl, hmatched, hmodified, front, doc, others, hsplit, hmatch, ?_⟩
      rw [documents, hfinal]
      rfl

/-- What a failed update leaves: it has gone through the documents in front of the first one that the
    filter or the update fails on, and each of them is updated by itself; that document, those behind
    it, the validator, the indexes and all other collections are as they were. -/
theorem store_of_failed_update {failure : OperationError}
    (h : updateMany name filter update store = (.error failure, final)) :
    ∃ collection front doc rest fault, store.collection? name = some collection ∧
      collection.documents = front ++ doc :: rest ∧
      collection.Reaches filter update front (doc :: rest) ∧
      doc.effect filter update = .error fault ∧ failure = .store fault ∧
      final.collection? name = some { collection with
        documents := front.map (Document.afterUpdate · filter update) ++ doc :: rest } ∧
      ∀ other ≠ name, final.collection? other = store.collection? other := by
  rw [updateMany_eq] at h
  cases hcollection : store.collection? name with
  | none =>
    rw [hcollection] at h
    cases h
  | some collection =>
    obtain ⟨front, rest, result, hsplit, hreaches, hends, hrun⟩ :=
      collection.exists_end_of_updateMany filter update
    rw [hcollection, Prod.mk.injEq, hrun, mapError_eq_error] at h
    obtain ⟨⟨fault, hresult, hfailure⟩, rfl⟩ := h
    dsimp only at hresult
    subst hresult
    cases hends with
    | failed others heffect =>
      rename_i doc
      refine ⟨collection, front, doc, others, fault, rfl, hsplit, hreaches, heffect,
        hfailure.symm, ?_, ?_⟩
      · exact collection?_put_self store name _
      · intro other hother
        exact collection?_put_of_ne store hother _

/-- Visits that are counted up for a first user and are no number for a second one. -/
theorem store_of_failed_update_visits :
    let update : Document := [("$inc", .document [("visits", .int32 1)])]
    let docs : List Document := [[("_id", .int32 1), ("visits", .int32 1)],
      [("_id", .int32 2), ("visits", .string "none")]]
    let store : Store := ⟨[("users", ⟨docs, none, []⟩), ("teams", ⟨docs, none, []⟩)], 0⟩
    ∃ failure final, updateMany "users" [] update store = (.error failure, final) ∧
      (∃ front doc rest, docs = front ++ doc :: rest ∧
        final.documents "users" =
          front.map (Document.afterUpdate · [] update) ++ doc :: rest) ∧
      final.documents "teams" = docs := by
  intro update docs store
  have hfails : (updateMany "users" [] update store).1.toOption.isNone = true := by
    decide +kernel
  rcases hresult : updateMany "users" [] update store with ⟨failure | outcome, final⟩
  · obtain ⟨collection, front, doc, rest, -, hcollection, hsplit, -, -, -, hfinal, hothers⟩ :=
      store_of_failed_update hresult
    cases hcollection
    refine ⟨failure, final, rfl, ⟨front, doc, rest, hsplit, ?_⟩, ?_⟩
    · rw [documents, hfinal]
      rfl
    · rw [documents, hothers "teams" (by decide)]
      rfl
  · rw [hresult] at hfails
    cases hfails

/-- A failed update need not leave the store as it was: the first user's visits stay counted up. -/
theorem failed_update_alters_users :
    let update : Document := [("$inc", .document [("visits", .int32 1)])]
    let store : Store := ⟨[("users", ⟨[[("_id", .int32 1), ("visits", .int32 1)],
      [("_id", .int32 2), ("visits", .string "none")]], none, []⟩)], 0⟩
    ∃ failure final, updateMany "users" [] update store = (.error failure, final) ∧
      final.collection? "users" ≠ store.collection? "users" := by
  intro update store
  have hfails : (updateMany "users" [] update store).1.toOption.isNone = true := by
    decide +kernel
  have hvisits : ((updateMany "users" [] update store).2.collection? "users").map (fun collection =>
      collection.documents.map fun doc => (doc.valueAt "visits").equal (.int32 2)) =
        some [true, false] := by
    decide +kernel
  rcases hresult : updateMany "users" [] update store with ⟨failure | outcome, final⟩
  · rw [hresult] at hvisits
    refine ⟨failure, final, rfl, ?_⟩
    intro hsame
    dsimp only at hvisits
    rw [hsame] at hvisits
    cases hvisits
  · rw [hresult] at hfails
    cases hfails

end Store

end DocQuery
