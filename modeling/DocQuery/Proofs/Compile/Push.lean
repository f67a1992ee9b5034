import DocQuery.Proofs.Document.Basic
import DocQuery.Proofs.Engine.Update
import DocQuery.Proofs.Run

/-!
# What a compiled push appends

The items of an array travel to the engine under `$each`, and any other value by itself.  The engine
tells the two apart by their shape, so it appends what was meant but for one kind of value: a document
that has a field `$each` of its own.
-/

namespace DocQuery

namespace Value

/-- The items of an array, or a value by itself. -/
def elements : Value → List Value
  | .array items => items
  | single => [single]

/-- Whether a value is a document with a field `$each`. -/
def hasEach : Value → Bool
  | .document fields => Document.has fields "$each"
  | _ => false

end Value

/-- No document has an array of only itself as a field. -/
theorem Document.not_mem_self (fields : Document) (name : String) :
    (name, Value.array [.document fields]) ∉ fields := by
  intro h
  have hsmaller := List.sizeOf_lt_of_mem h
  simp at hsmaller
  omega

namespace UpdateOperation

variable {value : Value}

/-- The engine appends the elements of a value, unless the value has a field `$each`. -/
theorem appendedItems_argument_iff :
    Update.appendedItems (push.argument value) = .ok value.elements ↔ value.hasEach = false := by
  cases value with
  | document fields =>
    show Update.appendedItems (.document fields) = .ok [.document fields] ↔
      Document.has fields "$each" = false
    rw [Update.appendedItems, Document.has]
    cases heach : Document.get? fields "$each" with
    | none => simp
    | some each =>
      cases each with
      | array items =>
        have hne : items ≠ [.document fields] := by
          rintro rfl
          exact Document.not_mem_self fields "$each" (Document.mem_of_get? heach)
        simpa using hne
      | _ => simp
  | array items => exact iff_of_true rfl rfl
  | _ => exact iff_of_true rfl rfl

end UpdateOperation

namespace Changes

variable {encoder : Encoder} {operation : UpdateOperation} {entry : ChangeEntry} {value : Value}
  {doc : Document} {items : List Value}

/-- An array operation on one path compiles to its operator at that path. -/
theorem update_single (hoperation : operation ≠ .set)
    (hvalue : entry.operand.encode encoder = .ok value) :
    Changes.update encoder ⟨operation, [entry]⟩ =
      .ok (some [(operation.operator,
        .document [(entry.key.storageName, operation.argument value)])]) := by
  rw [update, if_neg hoperation]
  unfold arrayUpdate
  simp only [List.mapM_cons, List.mapM_nil, hvalue]
  rfl

/-- A push of one value, which has no field `$each` of its own, onto a path that holds an array or
    nothing: it compiles, the update runs, the elements of the value stand behind the items that
    were there, and every path apart from the pushed one reads as before. -/
theorem pushed_of_update (hvalue : entry.operand.encode encoder = .ok value)
    (heach : value.hasEach = false) (hitems : doc.itemsAt? entry.key.storageName = some items) :
    ∃ update after, Changes.update encoder ⟨.push, [entry]⟩ = .ok (some update) ∧
      doc.updated update = .ok after ∧
      after.getPath? entry.key.storageName = some (.array (items ++ value.elements)) ∧
      ∀ path, Path.Apart entry.key.storageName path → after.getPath? path = doc.getPath? path := by
  have hadded := UpdateOperation.appendedItems_argument_iff.mpr heach
  have hupdate := @update_single encoder .push entry value nofun hvalue
  have happlied : doc.updated _ = .ok _ :=
    (doc.updated_single _ _ _).trans (Update.applyField_push hitems hadded)
  refine ⟨_, _, hupdate, happlied, ?_, ?_⟩
  · exact Document.getPath?_setPath_self _ _ _
  · intro path hapart
    exact Document.getPath?_setPath_of_apart doc hapart _

/-- Two tags, of which one is a document with a field `$each`, are pushed behind a third. -/
theorem pushed_of_update_tags :
    ∃ update after,
      Changes.update .standard ⟨.push, [⟨.name "tags",
        .array [.enumCase "red", .dictionary [(.name "$each", .array [])]], .setNull⟩]⟩ =
          .ok (some update) ∧
      Document.updated [("_id", .int32 1), ("tags", .array [.string "blue"])] update = .ok after ∧
      after.getPath? "tags" = some (.array
        [.string "blue", .string "red", .document [("$each", .array [])]]) := by
  generalize hentry : ChangeEntry.mk (.name "tags") _ _ = entry
  have hvalue : entry.operand.encode .standard =
      .ok (.array [.string "red", .document [("$each", .array [])]]) := by
    subst hentry
    rfl
  have hname : entry.key.storageName = "tags" := by
    subst hentry
    rfl
  have hitems : Document.itemsAt? [("_id", .int32 1), ("tags", .array [.string "blue"])]
      entry.key.storageName = some [.string "blue"] := by
    rw [hname]
    rfl
  obtain ⟨update, after, hupdate, hafter, hread, -⟩ := pushed_of_update hvalue rfl hitems
  rw [hname] at hread
  exact ⟨update, after, hupdate, hafter, hread⟩

end Changes

end DocQuery
