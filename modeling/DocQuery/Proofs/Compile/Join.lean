import DocQuery.Proofs.Compile.Predicate
import DocQuery.Proofs.Document.Basic
import DocQuery.Proofs.Document.Path
import DocQuery.Proofs.Engine.Pipeline

/-!
# What joins do

A join is told by the documents that a row matches and by what its method makes of them: their
array, a row for each of them, or the row alone where there are none.  The stages that a join
compiles to, a look-up that writes the array and an unwinding of it, do the same.
-/

namespace DocQuery

/-! ## Relational joins -/

/-- Whether a foreign document matches a row.  Its foreign value equals the row's local value, null
    where there is none, or an item of it where that is an array; a foreign array also equals what
    one of its items does, and a missing foreign value equals null. -/
def Document.matchesForeign (localPath foreignPath : String) (row other : Document) : Bool :=
  match row.valueAt localPath with
  | .array items => items.any (Value.storedEquals (other.getPath? foreignPath))
  | single => Value.storedEquals (other.getPath? foreignPath) single

/-- What becomes of a row for the documents that it matches. -/
def JoinMethod.rowsFor (aliasName : String) (row : Document) (matching : List Document) :
    JoinMethod → List Document
  | .left => [row.insert aliasName (.array (matching.map .document))]
  | .inner => matching.map fun other => row.insert aliasName (.document other)
  | .outer =>
      if matching.isEmpty then [row.erase aliasName]
      else matching.map fun other => row.insert aliasName (.document other)
  | .custom _ => []

/-- Whether a method is one of the built-in ones. -/
def JoinMethod.isBuiltIn : JoinMethod → Bool
  | .left | .inner | .outer => true
  | .custom _ => false

/-! ## The stages -/

namespace Pipeline

theorem joined_eq_filter (collection localPath foreignPath aliasName : String)
    (foreign : List Document) (row : Document) :
    joined ⟨collection, localPath, foreignPath, aliasName⟩ foreign row =
      foreign.filter (row.matchesForeign localPath foreignPath) := by
  refine List.filter_congr fun other _ => ?_
  have hequals : Predicate.fieldEquals (other.getPath? foreignPath) =
      Value.storedEquals (other.getPath? foreignPath) :=
    funext (Predicate.fieldEquals_eq_storedEquals _)
  rw [hequals, Document.matchesForeign]
  cases row.valueAt localPath <;> simp [candidates]

/-- A row with an array under a name becomes a row for each item; without items it stays on demand,
    without the name. -/
theorem unwindRow_insert {aliasName : String} (h : '.' ∉ aliasName.toList) (preserve : Bool)
    (row : Document) (items : List Value) :
    unwindRow aliasName preserve (row.insert aliasName (.array items)) =
      if items.isEmpty then if preserve then [row.erase aliasName] else []
      else items.map (row.insert aliasName) := by
  rw [unwindRow, Document.getPath?_of_no_dot h, Document.get?_insert_self]
  cases items with
  | nil =>
    rw [Document.erasePath_of_no_dot h, Document.erase_insert_self]
    rfl
  | cons item rest =>
    refine List.map_congr_left fun value _ => ?_
    rw [Document.setPath_of_no_dot h, Document.insert_insert_self]

/-- A look-up followed by an unwinding makes a row for each match; a row without matches stays on
    demand, without the name. -/
theorem flatMap_unwindRow_lookupRows {aliasName : String} (h : '.' ∉ aliasName.toList)
    (preserve : Bool) (collection localPath foreignPath : String) (foreign rows : List Document) :
    (lookupRows ⟨collection, localPath, foreignPath, aliasName⟩ foreign rows).flatMap
        (unwindRow aliasName preserve) =
      rows.flatMap fun row =>
        let matching := foreign.filter (row.matchesForeign localPath foreignPath)
        if matching.isEmpty then if preserve then [row.erase aliasName] else []
        else matching.map fun other => row.insert aliasName (.document other) := by
  rw [lookupRows, List.flatMap_map]
  refine congrArg (fun step => rows.flatMap step) (funext fun row => ?_)
  rw [joined_eq_filter, Document.setPath_of_no_dot h, unwindRow_insert h, List.isEmpty_map,
    List.map_map]
  rfl

end Pipeline

namespace Join

/-- The stages of a built-in join whose fields have paths: the look-up, and for all methods but one
    the unwinding of what it wrote. -/
theorem stages_collection {schema main : String} {aliasName : Option String} {method : JoinMethod}
    {foreign localField : Field} {localPath foreignPath : String} {unwinding : List Document}
    (hunwinding : unwindStages (aliasName.getD schema) method = .ok unwinding)
    (hlocal : localField.storagePath main = .ok localPath)
    (hforeign : Join.foreignPath schema (aliasName.getD schema) foreign = .ok foreignPath) :
    (Join.collection schema aliasName method foreign localField).stages main =
      .ok (Stage.lookup schema localPath foreignPath (aliasName.getD schema) :: unwinding) := by
  rw [stages, hunwinding, hlocal, hforeign]
  rfl

/-- A built-in join whose fields have paths compiles, and its stages make of every row what the
    method makes of it for the foreign documents that it matches, in stored order. -/
theorem run_stages_eq_flatMap {schema main : String} {aliasName : Option String}
    {method : JoinMethod} {foreign localField : Field} {localPath foreignPath : String}
    (hmethod : method.isBuiltIn = true) (halias : '.' ∉ (aliasName.getD schema).toList)
    (hlocal : localField.storagePath main = .ok localPath)
    (hforeign : Join.foreignPath schema (aliasName.getD schema) foreign = .ok foreignPath) :
    ∃ stages, (Join.collection schema aliasName method foreign localField).stages main =
        .ok stages ∧
      ∀ (source : String → List Document) (rows : List Document),
        Pipeline.run source stages rows =
          .ok (rows.flatMap fun row => method.rowsFor (aliasName.getD schema) row
            ((source schema).filter (row.matchesForeign localPath foreignPath))) := by
  have hstages : ∀ unwinding, unwindStages (aliasName.getD schema) method = .ok unwinding →
      (Join.collection schema aliasName method foreign localField).stages main =
        .ok (Stage.lookup schema localPath foreignPath (aliasName.getD schema) :: unwinding) :=
    fun _ hunwinding => stages_collection hunwinding hlocal hforeign
  generalize aliasName.getD schema = name at halias hstages ⊢
  cases method with
  | left =>
    refine ⟨_, hstages _ rfl, fun source rows => ?_⟩
    rw [Pipeline.run_singleton, Pipeline.runStage_lookup, Pipeline.lookupRows, List.map_eq_flatMap]
    refine congrArg (fun step => Except.ok (rows.flatMap step)) (funext fun row => ?_)
    rw [Pipeline.joined_eq_filter, Document.setPath_of_no_dot halias]
    rfl
  | inner =>
    refine ⟨_, hstages _ rfl, fun source rows => ?_⟩
    rw [Pipeline.run_cons, Pipeline.runStage_lookup]
    show Pipeline.run source [Stage.unwind name false] _ = _
    rw [Pipeline.run_singleton, Pipeline.runStage_unwind,
      Pipeline.flatMap_unwindRow_lookupRows halias]
    refine congrArg (fun step => Except.ok (rows.flatMap step)) (funext fun row => ?_)
    cases (source schema).filter (row.matchesForeign localPath foreignPath) <;> rfl
  | outer =>
    refine ⟨_, hstages _ rfl, fun source rows => ?_⟩
    rw [Pipeline.run_cons, Pipeline.runStage_lookup]
    show Pipeline.run source [Stage.unwind name true] _ = _
    rw [Pipeline.run_singleton, Pipeline.runStage_unwind,
      Pipeline.flatMap_unwindRow_lookupRows halias]
    rfl
  | custom token => cases hmethod

/-- Users with their teams: one of two teams, one of none, and one of a team that is not there. -/
theorem run_stages_eq_flatMap_teams :
    ∃ stages, (Join.collection "teams" (some "team") .outer (.ofKey .id)
        (.ofKey (.name "team_id"))).stages "users" = .ok stages ∧
      ∀ source : String → List Document,
        source "teams" = [[("_id", .int32 10)], [("_id", .int32 20)]] →
        Pipeline.run source stages
            [[("_id", .int32 1), ("team_id", .array [.int32 20, .int64 10])], [("_id", .int32 2)],
              [("_id", .int32 3), ("team_id", .int32 30), ("team", .null)]] =
          .ok [
            [("_id", .int32 1), ("team_id", .array [.int32 20, .int64 10]),
              ("team", .document [("_id", .int32 10)])],
            [("_id", .int32 1), ("team_id", .array [.int32 20, .int64 10]),
              ("team", .document [("_id", .int32 20)])],
            [("_id", .int32 2)], [("_id", .int32 3), ("team_id", .int32 30)]] := by
  have hlocal : (Field.ofKey (.name "team_id")).storagePath "users" = .ok "team_id" := rfl
  have hforeign : Join.foreignPath "teams" ((some "team").getD "teams") (.ofKey .id) =
      .ok "_id" := rfl
  obtain ⟨stages, hstages, hrun⟩ :=
    @run_stages_eq_flatMap "teams" "users" (some "team") .outer _ _ _ _ rfl (by decide) hlocal
      hforeign
  refine ⟨stages, hstages, fun source hsource => ?_⟩
  rw [hrun, hsource]
  rfl

end Join

end DocQuery
