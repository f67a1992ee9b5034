import DocQuery.Proofs.Store.Basic

/-!
# What an insert stores

An insert gives an identity to each document that comes without one, in front of its fields, and
then stores the documents one behind the other up to the first that the collection rejects.  Which
identities are given does not matter: they come from a supply, of which the store's own is one.
-/

namespace DocQuery

namespace Collection

/-- Whether a collection takes documents one behind the other: each passes the check beside the
    documents that are there and those in front of it. -/
def Admits (collection : Collection) (docs : List Document) : Prop :=
  ∀ front doc rest, docs = front ++ doc :: rest →
    collection.rejection? doc (collection.documents ++ front) = none

/-- Whether documents are the longest front part of others that a collection takes one behind the
    other. -/
structure IsLongestAdmitted (collection : Collection) (docs stored : List Document) : Prop where
  front : ∃ rest, docs = stored ++ rest
  admits : collection.Admits stored
  longest : ∀ longer rest, docs = longer ++ rest → collection.Admits longer →
    longer.length ≤ stored.length

/-- The collection with documents behind those that are there. -/
def appending (collection : Collection) (docs : List Document) : Collection :=
  { collection with documents := collection.documents ++ docs }

variable {collection : Collection} {doc : Document} {docs stored : List Document}

theorem appending_nil (collection : Collection) : collection.appending [] = collection := by
  rw [appending, List.append_nil]

theorem appending_cons (collection : Collection) (doc : Document) (rest : List Document) :
    (collection.appending [doc]).appending rest = collection.appending (doc :: rest) := by
  simp [appending]

theorem admits_nil (collection : Collection) : collection.Admits [] := by
  intro front doc rest h
  simp at h

theorem admits_cons {rest : List Document} :
    collection.Admits (doc :: rest) ↔
      collection.rejection? doc collection.documents = none ∧
        (collection.appending [doc]).Admits rest := by
  constructor
  · intro h
    constructor
    · have hfirst := h [] doc rest rfl
      rw [List.append_nil] at hfirst
      exact hfirst
    · intro front other others hrest
      have hother := h (doc :: front) other others (by rw [hrest]; rfl)
      rw [List.append_cons] at hother
      exact hother
  · rintro ⟨hfirst, hrest⟩ front other others h
    cases front with
    | nil =>
      cases h
      rw [List.append_nil]
      exact hfirst
    | cons first front =>
      cases h
      rw [List.append_cons]
      exact hrest front other others rfl

/-- A collection takes all of some documents, or one of them is the first that it rejects. -/
theorem admits_or_exists_first (collection : Collection) (docs : List Document) :
    collection.Admits docs ∨
      ∃ stored doc rest rejection, docs = stored ++ doc :: rest ∧ collection.Admits stored ∧
        collection.rejection? doc (collection.documents ++ stored) = some rejection := by
  induction docs generalizing collection with
  | nil => exact .inl (admits_nil collection)
  | cons doc rest ih =>
    cases hdoc : collection.rejection? doc collection.documents with
    | some rejection =>
      refine .inr ⟨[], doc, rest, rejection, rfl, admits_nil collection, ?_⟩
      rw [List.append_nil]
      exact hdoc
    | none =>
      rcases ih (collection.appending [doc]) with
        hrest | ⟨stored, other, others, rejection, rfl, hstored, hother⟩
      · exact .inl (admits_cons.mpr ⟨hdoc, hrest⟩)
      · refine .inr ⟨doc :: stored, other, others, rejection, rfl, ?_, ?_⟩
        · exact admits_cons.mpr ⟨hdoc, hstored⟩
        · rw [List.append_cons]
          exact hother

theorem isLongestAdmitted_self (h : collection.Admits docs) :
    collection.IsLongestAdmitted docs docs where
  front := ⟨[], (List.append_nil docs).symm⟩
  admits := h
  longest longer rest hsplit _ := by
    rw [hsplit, List.length_append]
    exact Nat.le_add_right _ _

/-- No front part that is taken reaches behind a rejected document. -/
theorem isLongestAdmitted_of_rejected {rejection : Rejection} (hstored : collection.Admits stored)
    (hdoc : collection.rejection? doc (collection.documents ++ stored) = some rejection)
    (rest : List Document) : collection.IsLongestAdmitted (stored ++ doc :: rest) stored where
  front := ⟨doc :: rest, rfl⟩
  admits := hstored
  longest longer others hsplit hlonger := by
    rcases List.append_eq_append_iff.mp hsplit with ⟨more, hlong, hmore⟩ | ⟨more, hshort, -⟩
    · cases more with
      | nil =>
        have hsame : longer = stored := hlong.trans (List.append_nil stored)
        exact Nat.le_of_eq (congrArg List.length hsame)
      | cons first more =>
        cases hmore
        rw [hlonger stored doc more hlong] at hdoc
        cases hdoc
    · rw [hshort, List.length_append]
      exact Nat.le_add_right _ _

/-- Documents that a collection takes are stored, and an insert goes on behind them. -/
theorem insertMany_append (hstored : collection.Admits stored) (rest : List Document) :
    collection.insertMany (stored ++ rest) =
      (((collection.appending stored).insertMany rest).1,
        { ((collection.appending stored).insertMany rest).2 with
          insertedIds := stored.filterMap Document.id? ++
            ((collection.appending stored).insertMany rest).2.insertedIds }) := by
  induction stored generalizing collection with
  | nil =>
    rw [appending_nil]
    rfl
  | cons doc others ih =>
    obtain ⟨hdoc, hothers⟩ := admits_cons.mp hstored
    have hrun := ih hothers
    rw [appending_cons, appending] at hrun
    rw [List.cons_append, insertMany, hdoc]
    dsimp only
    rw [hrun, List.filterMap_cons]
    cases doc.id? <;> rfl

/-- What an insert does: it stores the longest front part of the documents that the collection takes
    one behind the other and reports the identities of these.  There are no more documents, or the
    next one is rejected, and this is the one write error. -/
theorem insertMany_cases (collection : Collection) (docs : List Document) :
    ∃ stored, collection.IsLongestAdmitted docs stored ∧
      (collection.insertMany docs).1 = collection.appending stored ∧
      (collection.insertMany docs).2.insertedIds = stored.filterMap Document.id? ∧
      (docs = stored ∧ (collection.insertMany docs).2.writeErrors = [] ∨
        ∃ doc rest rejection, docs = stored ++ doc :: rest ∧
          collection.rejection? doc (collection.documents ++ stored) = some rejection ∧
          (collection.insertMany docs).2.writeErrors = [rejection.report]) := by
  rcases collection.admits_or_exists_first docs with
    hall | ⟨stored, doc, rest, rejection, rfl, hstored, hdoc⟩
  · have hrun := insertMany_append hall []
    rw [List.append_nil] at hrun
    rw [hrun]
    refine ⟨docs, isLongestAdmitted_self hall, rfl, ?_, .inl ⟨rfl, rfl⟩⟩
    exact List.append_nil _
  · have hend : (collection.appending stored).insertMany (doc :: rest) =
        (collection.appending stored, ⟨[], [rejection.report]⟩) := by
      have hrejected : (collection.appending stored).rejection? doc
          (collection.appending stored).documents = some rejection := hdoc
      rw [insertMany, hrejected]
    rw [insertMany_append hstored, hend]
    refine ⟨stored, isLongestAdmitted_of_rejected hstored hdoc rest, rfl, ?_,
      .inr ⟨doc, rest, rejection, rfl, hdoc, rfl⟩⟩
    exact List.append_nil _

-- The second of three documents has an identity that is there.
example :
    let collection : Collection := ⟨[[("_id", .int32 1)]], none, []⟩
    let result := collection.insertMany
      [[("_id", .int32 2)], [("_id", .int32 1)], [("_id", .int32 3)]]
    result.1.documents.length = 2 ∧ result.2.insertedIds.length = 1 ∧
      result.2.writeErrors.length = 1 := by
  decide +kernel

end Collection

namespace Store

/-! ## Identities from a supply -/

/-- Documents with identities: one without gets the next of a supply, in front of its fields. -/
def identify (supply : Nat → ObjectId) : Nat → List Document → List Document
  | _, [] => []
  | count, doc :: rest =>
      if doc.has idName then doc :: identify supply count rest
      else ((idName, .objectId (supply count)) :: doc) :: identify supply (count + 1) rest

/-- The number of documents without an identity. -/
def lacking (docs : List Document) : Nat := docs.countP fun doc => !doc.has idName

/-- An insert that takes the identities of documents without one from a supply. -/
def insertManyFrom (supply : Nat → ObjectId) (name : String) (docs : List Document) :
    Operation Store InsertOutcome := do
  let store ← get
  let (collection, outcome) :=
    (store.collectionOrEmpty name).insertMany (identify supply store.assigned docs)
  set { store.put name collection with assigned := store.assigned + lacking docs }
  return outcome

theorem assignIds_eq (count : Nat) (docs : List Document) :
    assignIds count docs = (identify assignedId count docs, count + lacking docs) := by
  induction docs generalizing count with
  | nil => rfl
  | cons doc rest ih =>
    rw [assignIds, identify, lacking, List.countP_cons]
    cases hhas : doc.has idName with
    | true =>
      simp only [if_pos, ih, lacking]
      rfl
    | false =>
      simp only [Bool.false_eq_true, if_false, ih, lacking, Bool.not_false, if_true]
      rw [Nat.add_right_comm, Nat.add_assoc]

/-- The store's own identities are one supply of them. -/
theorem insertManyFrom_assignedId : insertManyFrom assignedId = insertMany := by
  funext name docs store
  rw [insertMany_eq, assignIds_eq]
  rfl

variable (supply : Nat → ObjectId)

theorem length_identify (count : Nat) (docs : List Document) :
    (identify supply count docs).length = docs.length := by
  induction docs generalizing count with
  | nil => rfl
  | cons doc rest ih =>
    rw [identify]
    split <;> simp [ih]

/-- Every document from a supply has an identity, its own or one of the supply. -/
theorem id?_identify (count : Nat) (docs : List Document) :
    ∀ doc ∈ identify supply count docs, doc.id?.isSome := by
  induction docs generalizing count with
  | nil => exact List.forall_mem_nil _
  | cons doc rest ih =>
    rw [identify]
    split
    · rename_i hhas
      exact List.forall_mem_cons.mpr ⟨hhas, ih count⟩
    · exact List.forall_mem_cons.mpr ⟨rfl, ih (count + 1)⟩

/-- What an insert of documents with identities reports and leaves, if it has stored some of them. -/
structure InsertedUpTo (store : Store) (name : String) (docs stored : List Document)
    (outcome : InsertOutcome) (final : Store) : Prop where
  longest : (store.collectionOrEmpty name).IsLongestAdmitted docs stored
  /-- The documents stand behind those that are there, and a collection that is not there is made. -/
  collection : final.collection? name = some ((store.collectionOrEmpty name).appending stored)
  others : ∀ other ≠ name, final.collection? other = store.collection? other
  ids : outcome.insertedIds.map some = stored.map Document.id?
  /-- There is one write error if a document is left, and none otherwise. -/
  errors : docs = stored ∧ outcome.writeErrors = [] ∨
    ∃ doc rest rejection, docs = stored ++ doc :: rest ∧
      (store.collectionOrEmpty name).rejection? doc
        ((store.collectionOrEmpty name).documents ++ stored) = some rejection ∧
      outcome.writeErrors = [rejection.report]

/-- An insert into a store always reports, and stores documents up to the first rejected one. -/
theorem exists_insertedUpTo (name : String) (docs : List Document) (store : Store) :
    ∃ stored outcome final, insertManyFrom supply name docs store = (.ok outcome, final) ∧
      store.InsertedUpTo name (identify supply store.assigned docs) stored outcome final := by
  obtain ⟨stored, hlongest, hcollection, hids, hend⟩ :=
    (store.collectionOrEmpty name).insertMany_cases (identify supply store.assigned docs)
  obtain ⟨rest, hsplit⟩ := hlongest.front
  have hstored : ∀ doc ∈ stored, doc.id?.isSome := by
    intro doc hdoc
    refine id?_identify supply store.assigned docs doc ?_
    rw [hsplit]
    exact List.mem_append_left rest hdoc
  refine ⟨stored, _, _, rfl, hlongest, ?_, ?_, ?_, hend⟩
  · exact (collection?_put_self store name _).trans (congrArg some hcollection)
  · intro other hother
    exact collection?_put_of_ne store hother _
  · rw [hids, List.map_filterMap_some_eq_filter_map_isSome, List.filter_eq_self.mpr]
    exact List.forall_mem_map.mpr hstored

variable {supply} {name : String} {docs : List Document} {store final : Store}
  {outcome : InsertOutcome}

/-- A report without write errors has an identity for each document. -/
theorem ids_of_insertManyFrom
    (h : insertManyFrom supply name docs store = (.ok outcome, final))
    (hnone : outcome.writeErrors = []) :
    outcome.insertedIds.map some = (identify supply store.assigned docs).map Document.id? := by
  obtain ⟨stored, outcome', final', hrun, hinserted⟩ := exists_insertedUpTo supply name docs store
  cases hrun.symm.trans h
  rcases hinserted.errors with ⟨hall, -⟩ | ⟨doc, rest, rejection, -, -, herrors⟩
  · rw [hall]
    exact hinserted.ids
  · rw [hnone] at herrors
    cases herrors

end Store

end DocQuery
