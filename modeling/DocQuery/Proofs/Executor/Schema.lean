import DocQuery.Proofs.Compile.Schema
import DocQuery.Proofs.Executor.Basic
import DocQuery.Proofs.Store.Validators

/-!
# Validators under schema changes

The validator of a collection is described by the changes of the collection since it last came into
being, folded into one description; a collection that an insert has made and no change has altered
has no validator.  Documents come and go in between, by queries or on the store itself, whether
these succeed or fail.
-/

namespace DocQuery

open Operation

theorem Compiled.keeps_run {σ α γ : Type} (view : σ → γ) (result : Compiled α) :
    Keeps view (result.run : Operation σ α) := by
  intro state
  rw [run_eq]

theorem keeps_checkWriteErrors {σ γ : Type} (view : σ → γ) (errors : List WriteError) :
    Keeps view (checkWriteErrors errors : Operation σ Unit) := by
  unfold checkWriteErrors
  cases firstWriteError? errors with
  | none => exact keeps_pure ()
  | some failure => exact keeps_throw failure

namespace Store

theorem keeps_backend_aggregate {γ : Type} (view : Store → γ) (name : String)
    (stages : List Document) (options : ReadOptions) :
    Keeps view (backend.aggregate name stages options) := by
  intro store
  rw [backend_aggregate_eq]

theorem keeps_targetFilter {γ : Type} (view : Store → γ) (name : String) (plan : WritePlan)
    (options : ReadOptions) : Keeps view (backend.targetFilter name plan options) :=
  fun store => congrArg view (targetFilter_snd name plan options store)

end Store

namespace Query

/-- The collection that a query inserts into, if it compiles to an insert. -/
def insertsInto? (query : Query) (encoder : Encoder) : Option String :=
  (query.insertCommand encoder).toOption.map InsertCommand.collection

theorem insertsInto?_of_ne {query : Query} (haction : query.action ≠ .insert)
    (encoder : Encoder) : query.insertsInto? encoder = none := by
  unfold insertsInto?
  cases hcommand : query.insertCommand encoder with
  | error error => rfl
  | ok command => exact (haction (insertCommand_eq_ok.mp hcommand).1).elim

end Query

namespace Executor

variable {config : Config} {query : Query} {store final : Store}

/-! ## Queries -/

theorem keeps_find {γ : Type} (view : Store → γ) (config : Config) (query : Query) :
    Keeps view ((onStore config).find query) := by
  refine (Compiled.keeps_run view _).bind fun command => ?_
  refine (Store.keeps_backend_aggregate view _ _ _).bind fun stream => ?_
  cases stream.collect with
  | ok rows => exact keeps_pure _
  | error failure => exact keeps_throw failure

theorem keeps_update (config : Config) (query : Query) :
    Keeps Store.validator? ((onStore config).update query) := by
  refine (Compiled.keeps_run _ _).bind fun _ => ?_
  refine (Compiled.keeps_run _ _).bind fun command => ?_
  rcases command with ⟨collection, plan, _ | update⟩ | ⟨collection, plan⟩
  · exact keeps_pure _
  · refine (Store.keeps_targetFilter _ _ _ _).bind fun filter => ?_
    refine Keeps.bind (fun store => ?_) fun outcome => ?_
    · exact funext (Store.validator?_updateMany collection filter update store)
    · exact (keeps_checkWriteErrors _ _).bind fun _ => keeps_pure _
  · exact keeps_throw _

theorem keeps_delete (config : Config) (query : Query) :
    Keeps Store.validator? ((onStore config).delete query) := by
  refine (Compiled.keeps_run _ _).bind fun _ => ?_
  refine (Compiled.keeps_run _ _).bind fun command => ?_
  rcases command with ⟨collection, plan, update⟩ | ⟨collection, plan⟩
  all_goals
    refine (Store.keeps_targetFilter _ _ _ _).bind fun filter store => ?_
    exact funext (Store.validator?_deleteMany collection filter store)

theorem keeps_reportInserted {γ : Type} (view : Store → γ) (count : Nat)
    (outcome : InsertOutcome) :
    Keeps view (do
      checkWriteErrors outcome.writeErrors
      if outcome.insertedIds.length = count then return outcome.insertedIds
      else throw (.insertCountMismatch count outcome.insertedIds.length)) := by
  refine (keeps_checkWriteErrors _ _).bind fun _ => ?_
  split
  · exact keeps_pure _
  · exact keeps_throw _

/-- An insert that compiles makes its collection, whatever becomes of its documents. -/
theorem validator?_insert (config : Config) (query : Query) (store : Store) (name : String) :
    ((onStore config).insert query store).2.validator? name =
      if query.insertsInto? config.encoder = some name then some (store.validator? name).join
      else store.validator? name := by
  unfold insert Query.insertsInto?
  rw [bind_eq, Compiled.run_eq, onStore]
  dsimp only
  cases query.insertCommand config.encoder with
  | error error => rfl
  | ok command =>
    have hinserted := @view_bind _ _ _ _ Store.validator?
      (Store.insertMany command.collection command.documents) _
      (keeps_reportInserted _ command.documents.length) store
    refine (congrFun hinserted name).trans ?_
    rw [Store.validator?_insertMany]
    by_cases hname : name = command.collection
    · simp [hname, Except.toOption]
    · simp [hname, Ne.symm hname, Except.toOption]

/-- Of all queries, those that compile to an insert may make a collection; none makes or changes a
    validator. -/
theorem validator?_execute (config : Config) (query : Query) (store : Store) (name : String) :
    ((onStore config).execute query store).2.validator? name =
      if query.insertsInto? config.encoder = some name then some (store.validator? name).join
      else store.validator? name := by
  unfold execute
  cases haction : query.action with
  | insert =>
    rw [← validator?_insert]
    exact congrFun (view_bind (fun _ => keeps_pure _) store) name
  | find =>
    rw [query.insertsInto?_of_ne (by simp [haction])]
    exact congrFun ((keeps_find Store.validator? config query).bind (fun _ => keeps_pure _) store)
      name
  | update =>
    rw [query.insertsInto?_of_ne (by simp [haction])]
    exact congrFun ((keeps_update config query).bind (fun _ => keeps_pure _) store) name
  | delete =>
    rw [query.insertsInto?_of_ne (by simp [haction])]
    exact congrFun ((keeps_delete config query).bind (fun _ => keeps_pure _) store) name

end Executor

/-! ## Changes -/

/-- What a change makes of the validator of its collection, which may not be there. -/
def SchemaChange.validator? (change : SchemaChange) (existing : Option (Option Document)) :
    Option (Option Document) :=
  match change.action with
  | .create => some (some (freshValidator change.createFields))
  | .update => existing.map fun validator =>
      some (mergedValidator change.updateFields change.deleteFields validator)
  | .delete => none

namespace Executor

variable {config : Config} {store final : Store}

/-- Creating indexes of a collection that is there changes no validators. -/
theorem validator?_createIndexes {collection : String} (indexes : List IndexSpec)
    (hthere : (store.validator? collection).isSome) (name : String) :
    ((onStore config).createIndexes collection indexes store).2.validator? name =
      store.validator? name := by
  unfold createIndexes
  split
  · rfl
  · refine (Store.validator?_createIndexes collection indexes store name).trans ?_
    obtain ⟨validator, hvalidator⟩ := Option.isSome_iff_exists.mp hthere
    by_cases hname : name = collection
    · rw [if_pos hname, hname, hvalidator]
      rfl
    · rw [if_neg hname]

/-- Where a collection has been made ready, its indexes change no validators any more. -/
theorem validator?_of_indexed {ready : Operation Store Unit} {collection : String}
    {indexes : List IndexSpec} {command result : SchemaCommand}
    (h : (do ready; (onStore config).createIndexes collection indexes; return command) store =
      (.ok result, final)) :
    ∃ store', ready store = (.ok (), store') ∧ ((store'.validator? collection).isSome →
      ∀ name, final.validator? name = store'.validator? name) := by
  obtain ⟨⟨⟩, store', hready, h⟩ := Operation.bind_eq_ok.mp h
  obtain ⟨⟨⟩, store'', hindexes, h⟩ := Operation.bind_eq_ok.mp h
  obtain ⟨-, rfl⟩ := Operation.pure_eq_ok.mp h
  refine ⟨store', hready, fun hthere name => ?_⟩
  rw [← validator?_createIndexes indexes hthere name, hindexes]

/-- A change that succeeds changes the validator of its own collection only. -/
theorem validator?_applySchema {change : SchemaChange} {result : SchemaCommand}
    (h : (onStore config).applySchema change store = (.ok result, final)) (name : String) :
    final.validator? name =
      if name = change.schema then change.validator? (store.validator? name)
      else store.validator? name := by
  unfold applySchema at h
  unfold SchemaChange.validator?
  cases haction : change.action with
  | create =>
    simp only [haction] at h
    obtain ⟨existing, store', hexisting, h⟩ := Operation.bind_eq_ok.mp h
    obtain ⟨command, store'', hcompiled, h⟩ := Operation.bind_eq_ok.mp h
    obtain ⟨rfl, rfl⟩ := Operation.pure_eq_ok.mp hexisting
    obtain ⟨hcommand, rfl⟩ := Compiled.run_eq_ok.mp hcompiled
    simp only [SchemaChange.command, haction] at hcommand
    obtain ⟨indexes, -, hcommand⟩ := bind_eq_ok.mp hcommand
    cases hcommand
    obtain ⟨created, hcreated, hkept⟩ := validator?_of_indexed h
    have hcreated := Store.validator?_of_createCollection hcreated
    rw [hkept (by simp [hcreated]), hcreated]
  | update =>
    simp only [haction] at h
    obtain ⟨existing, store', hexisting, h⟩ := Operation.bind_eq_ok.mp h
    obtain ⟨command, store'', hcompiled, h⟩ := Operation.bind_eq_ok.mp h
    obtain ⟨hexisting, rfl⟩ := Store.validator?_of_collectionValidator hexisting
    obtain ⟨hcommand, rfl⟩ := Compiled.run_eq_ok.mp hcompiled
    simp only [SchemaChange.command, haction] at hcommand
    obtain ⟨indexes, -, hcommand⟩ := bind_eq_ok.mp hcommand
    cases hcommand
    obtain ⟨altered, haltered, hkept⟩ := validator?_of_indexed h
    have haltered := Store.validator?_of_modifyValidator haltered
    rw [hkept (by simp [haltered]), haltered]
    by_cases hname : name = change.schema
    · rw [if_pos hname, if_pos hname, hname, hexisting]
      rfl
    · rw [if_neg hname, if_neg hname]
  | delete =>
    simp only [haction] at h
    obtain ⟨existing, store', hexisting, h⟩ := Operation.bind_eq_ok.mp h
    obtain ⟨command, store'', hcompiled, h⟩ := Operation.bind_eq_ok.mp h
    obtain ⟨rfl, rfl⟩ := Operation.pure_eq_ok.mp hexisting
    obtain ⟨hcommand, rfl⟩ := Compiled.run_eq_ok.mp hcompiled
    simp only [SchemaChange.command, haction] at hcommand
    cases hcommand
    obtain ⟨⟨⟩, dropped, hdropped, h⟩ := Operation.bind_eq_ok.mp h
    obtain ⟨-, rfl⟩ := Operation.pure_eq_ok.mp h
    exact Store.validator?_of_dropCollection hdropped name

end Executor

/-! ## Runs -/

/-- What may happen to a store whose collections change: a change or a query through an executor,
    or a write of documents on the store itself. -/
inductive SchemaEvent where
  | change (change : SchemaChange)
  | query (query : Query)
  | insert (name : String) (docs : List Document)
  | update (name : String) (filter update : Document)
  | delete (name : String) (filter : Document)

namespace SchemaEvent

/-- Whether the data types of an event are built-in ones. -/
def isBuiltIn : SchemaEvent → Bool
  | .change made => made.isBuiltIn
  | _ => true

/-- The store after an event; a change has to succeed, while queries and writes may fail. -/
def after? (config : Config) (store : Store) : SchemaEvent → Option Store
  | .change made =>
      match (Executor.onStore config).applySchema made store with
      | (.ok _, final) => some final
      | (.error _, _) => none
  | .query asked => some ((Executor.onStore config).execute asked store).2
  | .insert name docs => some (Store.insertMany name docs store).2
  | .update name filter changes => some (Store.updateMany name filter changes store).2
  | .delete name filter => some (Store.deleteMany name filter store).2

/-- The store that events reach from the empty one, if their changes succeed. -/
def reached? (config : Config) (events : List SchemaEvent) : Option Store :=
  events.foldlM (after? config) .empty

/-- The collection that an event inserts into, if it does. -/
def insertsInto? (config : Config) : SchemaEvent → Option String
  | .query asked => asked.insertsInto? config.encoder
  | .insert name _ => some name
  | _ => none

/-- The changes of a collection since it came into being, after one more event.  There are none of a
    collection that is not there, and an empty list of one that an insert has made. -/
def changesAfter (config : Config) (name : String) (changes : Option (List SchemaChange)) :
    SchemaEvent → Option (List SchemaChange)
  | .change made =>
      if made.schema = name then
        match made.action with
        | .create => some [made]
        | .update => changes.map (· ++ [made])
        | .delete => none
      else changes
  | event =>
      if event.insertsInto? config = some name then some (changes.getD []) else changes

/-- The changes of a collection since it last came into being. -/
def changesOf (config : Config) (name : String) (events : List SchemaEvent) :
    Option (List SchemaChange) :=
  events.foldl (changesAfter config name) none

end SchemaEvent

/-- The validator of a collection, which may not be there or have none, beside the changes of the
    collection. -/
inductive IsDescribed : Option (List SchemaChange) → Option (Option Document) → Prop where
  | absent : IsDescribed none none
  | plain : IsDescribed (some []) (some none)
  | described {changes : List SchemaChange} {validator : Document} : changes ≠ [] →
      (Description.ofChanges changes).IsDescribedBy validator →
      IsDescribed (some changes) (some (some validator))

namespace IsDescribed

variable {changes : Option (List SchemaChange)} {validator : Option (Option Document)}

/-- A change of the collection. -/
theorem change (h : IsDescribed changes validator) {change : SchemaChange}
    (hbuiltIn : change.isBuiltIn = true) (config : Config) :
    IsDescribed (SchemaEvent.changesAfter config change.schema changes (.change change))
      (change.validator? validator) := by
  rw [SchemaChange.isBuiltIn, Bool.and_eq_true, List.all_eq_true, List.all_eq_true] at hbuiltIn
  obtain ⟨hcreated, hupdated⟩ := hbuiltIn
  simp only [SchemaEvent.changesAfter, SchemaChange.validator?, if_pos]
  cases haction : change.action with
  | create =>
    refine .described (List.cons_ne_nil _ _) ?_
    have hdescription : Description.ofChanges [change] = .created change.createFields := by
      simp [Description.ofChanges, Description.changed, haction]
    rw [hdescription]
    exact Description.isDescribedBy_freshValidator hcreated
  | update =>
    have hdescription : ∀ earlier, Description.ofChanges (earlier ++ [change]) =
        (Description.ofChanges earlier).altered change.updateFields change.deleteFields := by
      intro earlier
      simp [Description.ofChanges, Description.changed, haction]
    cases h with
    | absent => exact .absent
    | plain =>
      refine .described (List.cons_ne_nil _ _) ?_
      rw [hdescription []]
      exact Description.isDescribedBy_mergedValidator_none _ hupdated
    | described hne hdescribed =>
      refine .described (List.append_ne_nil_of_right_ne_nil _ (List.cons_ne_nil _ _)) ?_
      rw [hdescription]
      exact hdescribed.mergedValidator _ hupdated
  | delete => exact .absent

/-- An insert into the collection, which is there afterwards. -/
theorem insert (h : IsDescribed changes validator) :
    IsDescribed (some (changes.getD [])) (some validator.join) := by
  cases h with
  | absent => exact .plain
  | plain => exact .plain
  | described hne hdescribed => exact .described hne hdescribed

end IsDescribed

namespace SchemaEvent

variable {config : Config} {store final : Store}

/-- An event that is no change makes the collection that it inserts into, if it was not there, and
    changes no validators. -/
theorem validator?_after {event : SchemaEvent} (hdocuments : ∀ made, event ≠ .change made)
    (h : event.after? config store = some final) (name : String) :
    final.validator? name =
      if event.insertsInto? config = some name then some (store.validator? name).join
      else store.validator? name := by
  cases event with
  | change made => exact (hdocuments made rfl).elim
  | query asked =>
    cases h
    exact Executor.validator?_execute config asked store name
  | insert collection docs =>
    cases h
    refine (Store.validator?_insertMany collection docs store name).trans ?_
    by_cases hname : name = collection
    · simp [hname, insertsInto?]
    · simp [hname, Ne.symm hname, insertsInto?]
  | update collection filter changes =>
    cases h
    exact Store.validator?_updateMany collection filter changes store name
  | delete collection filter =>
    cases h
    exact Store.validator?_deleteMany collection filter store name

theorem changesAfter_of_ne {event : SchemaEvent} (hdocuments : ∀ made, event ≠ .change made)
    (config : Config) (name : String) (changes : Option (List SchemaChange)) :
    event.changesAfter config name changes =
      if event.insertsInto? config = some name then some (changes.getD []) else changes := by
  cases event with
  | change made => exact (hdocuments made rfl).elim
  | _ => rfl

theorem change_after {made : SchemaChange}
    (h : (SchemaEvent.change made).after? config store = some final) :
    ∃ command, (Executor.onStore config).applySchema made store = (.ok command, final) := by
  unfold after? at h
  dsimp only at h
  split at h
  · rename_i command final' happlied
    cases h
    exact ⟨command, happlied⟩
  · cases h

/-- One event keeps the validators described. -/
theorem isDescribed_after {event : SchemaEvent} (hbuiltIn : event.isBuiltIn = true)
    (h : event.after? config store = some final) (name : String)
    {changes : Option (List SchemaChange)} (hstore : IsDescribed changes (store.validator? name)) :
    IsDescribed (event.changesAfter config name changes) (final.validator? name) := by
  by_cases hchange : ∃ made, event = .change made
  · obtain ⟨made, rfl⟩ := hchange
    obtain ⟨command, happlied⟩ := change_after h
    rw [Executor.validator?_applySchema happlied name]
    by_cases hname : made.schema = name
    · subst hname
      rw [if_pos rfl]
      exact hstore.change hbuiltIn config
    · rw [if_neg (Ne.symm hname)]
      simpa [changesAfter, hname] using hstore
  · have hdocuments : ∀ made, event ≠ .change made := fun made heq => hchange ⟨made, heq⟩
    rw [validator?_after hdocuments h name, changesAfter_of_ne hdocuments]
    by_cases hinto : event.insertsInto? config = some name
    · rw [if_pos hinto, if_pos hinto]
      exact hstore.insert
    · rw [if_neg hinto, if_neg hinto]
      exact hstore

/-- A run keeps the validators described. -/
theorem isDescribed_of_run {events : List SchemaEvent}
    (hbuiltIn : ∀ event ∈ events, event.isBuiltIn = true)
    (h : events.foldlM (after? config) store = some final) (name : String)
    {changes : Option (List SchemaChange)} (hstore : IsDescribed changes (store.validator? name)) :
    IsDescribed (events.foldl (changesAfter config name) changes) (final.validator? name) := by
  induction events generalizing store changes with
  | nil =>
    cases h
    exact hstore
  | cons event rest ih =>
    obtain ⟨hevent, hrest⟩ := List.forall_mem_cons.mp hbuiltIn
    rw [List.foldlM_cons] at h
    obtain ⟨next, hnext, h⟩ := Option.bind_eq_some_iff.mp h
    exact ih hrest h (isDescribed_after hevent hnext name hstore)

/-- The changes of a collection are known exactly if the collection is there. -/
theorem isDescribed_of_reached? {events : List SchemaEvent}
    (hbuiltIn : ∀ event ∈ events, event.isBuiltIn = true)
    (h : reached? config events = some final) (name : String) :
    IsDescribed (changesOf config name events) (final.validator? name) :=
  isDescribed_of_run hbuiltIn h name .absent

end SchemaEvent

/-- After schema changes with built-in data types that have all succeeded, and any writes of
    documents in between: a collection without a validator has been made by an insert and not been
    changed since; any other validator describes the changes since its collection came into
    being. -/
theorem validator_of_changes {config : Config} {events : List SchemaEvent} {store : Store}
    (hbuiltIn : ∀ event ∈ events, event.isBuiltIn = true)
    (hreached : SchemaEvent.reached? config events = some store) {name : String}
    {collection : Collection} (hcollection : store.collection? name = some collection) :
    ∃ changes, SchemaEvent.changesOf config name events = some changes ∧
      (changes = [] ∧ collection.validator = none ∨
        changes ≠ [] ∧ ∃ validator, collection.validator = some validator ∧
          (Description.ofChanges changes).IsDescribedBy validator) := by
  have hdescribed := SchemaEvent.isDescribed_of_reached? hbuiltIn hreached name
  rw [Store.validator?, hcollection, Option.map_some] at hdescribed
  generalize hchanges : SchemaEvent.changesOf config name events = changes at hdescribed
  generalize hvalidator : collection.validator = validator at hdescribed
  cases hdescribed with
  | plain => exact ⟨[], rfl, .inl ⟨rfl, rfl⟩⟩
  | described hne hdescribed => exact ⟨_, rfl, .inr ⟨hne, _, rfl, hdescribed⟩⟩

/-- A collection that is created anew after it has been dropped, takes a document between its
    changes and rejects another, and loses a required field; beside it one that an insert has
    made. -/
theorem validator_of_changes_teams :
    let created : SchemaChange :=
      ⟨"teams", .create,
        [⟨.name "title", .string, [.required]⟩, ⟨.name "size", .int32, [.required]⟩],
        [], [], [.unique [.name "title"] none]⟩
    let altered : SchemaChange :=
      ⟨"teams", .update, [], [⟨.name "size", .double⟩, ⟨.name "since", .date⟩], [.name "title"], []⟩
    let events : List SchemaEvent :=
      [.insert "users" [[("name", .string "Ada")]],
        .change created, .change ⟨"teams", .delete, [], [], [], []⟩, .change created,
        .insert "teams" [[("title", .string "red"), ("size", .int32 3)], [("size", .int32 2)]],
        .change altered, .query (Query.ofSchema "teams" .delete)]
    ∃ store teams users, SchemaEvent.reached? .standard events = some store ∧
      store.collection? "teams" = some teams ∧ store.collection? "users" = some users ∧
      users.validator = none ∧ ∃ validator, teams.validator = some validator ∧
        (Description.ofChanges [created, altered]).IsDescribedBy validator := by
  intro created altered events
  have hbuiltIn : ∀ event ∈ events, event.isBuiltIn = true := by decide
  have hsome : ((SchemaEvent.reached? .standard events).bind fun store =>
      (store.collection? "teams").bind fun _ => store.collection? "users").isSome = true := by
    decide +kernel
  obtain ⟨users, h⟩ := Option.isSome_iff_exists.mp hsome
  obtain ⟨store, hreached, h⟩ := Option.bind_eq_some_iff.mp h
  obtain ⟨teams, hteams, husers⟩ := Option.bind_eq_some_iff.mp h
  obtain ⟨changes, hchanges, hteam⟩ := validator_of_changes hbuiltIn hreached hteams
  obtain ⟨none, hnone, huser⟩ := validator_of_changes hbuiltIn hreached husers
  obtain rfl : [created, altered] = changes := Option.some.inj hchanges
  obtain rfl : [] = none := Option.some.inj hnone
  refine ⟨store, teams, users, hreached, hteams, husers, ?_, ?_⟩
  · exact (huser.resolve_right fun h => h.1 rfl).2
  · exact (hteam.resolve_left fun h => nomatch h.1).2

end DocQuery
