import DocQuery.Proofs.Compile.Schema

/-!
# What an alteration leaves of older definitions

An alteration writes the property of each update into the stored properties and takes the deleted
names out of them.  An update to a custom type has no property to write: what the name's older
definitions say stays in the validator.
-/

namespace DocQuery

theorem DataType.property_eq_none_iff {dataType : DataType} :
    dataType.property = none ↔ dataType.isBuiltIn = false := by
  cases dataType <;> simp [property, tag?, isBuiltIn]

namespace SchemaChange

/-- What a validator says of the values of a name. -/
def propertyOf? (validator : Document) (name : String) : Option Value :=
  ((Document.getDocument? validator schemaOperator).bind (Document.getDocument? · "properties")).bind
    (Document.get? · name)

/-- The properties that updates write, in order. -/
def writtenProperties (updates : List FieldUpdate) : Document :=
  (updates.map FieldUpdate.typedName).filterMap TypedName.property?

/-- An altered validator says of a name what the last update of it with a property does, or else
    what the validator before does, and nothing if the name is deleted. -/
theorem propertyOf?_mergedValidator (updates : List FieldUpdate) (deletes : List Key)
    (existing : Option Document) (name : String) :
    propertyOf? (mergedValidator updates deletes existing) name =
      if name ∈ deletes.map Key.storageName then none
      else (Document.get? (writtenProperties updates).reverse name).or
        (existing.bind (propertyOf? · name)) := by
  have hstored : Document.get? ((Document.getDocument?
      ((existing.bind (Document.getDocument? · schemaOperator)).getD
        [("bsonType", .string "object")]) "properties").getD []) name =
      existing.bind (propertyOf? · name) := by
    cases existing with
    | none => rfl
    | some validator =>
      simp only [Option.bind_some, propertyOf?]
      cases Document.getDocument? validator schemaOperator with
      | none => rfl
      | some schema =>
        simp only [Option.bind_some, Option.getD_some]
        cases Document.getDocument? schema "properties" <;> rfl
  rw [← hstored, writtenProperties, ← Document.get?_insertAll, ← updateProperties_eq_insertAll,
    ← Document.get?_foldl_erase]
  simp [mergedValidator, propertyOf?, Document.getDocument?, Document.get?, Value.asDocument?]

theorem mem_names_writtenProperties {updates : List FieldUpdate} {name : String} :
    name ∈ (writtenProperties updates).names ↔
      ∃ update ∈ updates, update.name.storageName = name ∧ update.dataType.isBuiltIn = true := by
  constructor
  · intro h
    obtain ⟨field, hfield, rfl⟩ := List.mem_map.mp h
    obtain ⟨typed, htyped, hfield⟩ := List.mem_filterMap.mp hfield
    obtain ⟨update, hupdate, rfl⟩ := List.mem_map.mp htyped
    obtain ⟨property, hproperty, rfl⟩ := Option.map_eq_some_iff.mp hfield
    refine ⟨update, hupdate, rfl, ?_⟩
    by_contra hcustom
    rw [FieldUpdate.typedName, DataType.property_eq_none_iff.mpr (by simpa using hcustom)]
      at hproperty
    cases hproperty
  · rintro ⟨update, hupdate, rfl, hbuiltIn⟩
    obtain ⟨property, hproperty⟩ := DataType.exists_property hbuiltIn
    have hfield : update.typedName.property? =
        some (update.name.storageName, .document property) := by
      simp [TypedName.property?, FieldUpdate.typedName, hproperty]
    exact List.mem_map.mpr ⟨_, List.mem_filterMap.mpr
      ⟨_, List.mem_map_of_mem hupdate, hfield⟩, rfl⟩

theorem writtenProperties_append (first second : List FieldUpdate) :
    writtenProperties (first ++ second) =
      writtenProperties first ++ writtenProperties second := by
  simp [writtenProperties]

theorem get?_reverse_writtenProperties_eq_none_iff {updates : List FieldUpdate} {name : String} :
    Document.get? (writtenProperties updates).reverse name = none ↔
      ∀ update ∈ updates, update.name.storageName = name → update.dataType.isBuiltIn = false := by
  rw [Document.get?_eq_none_iff, Document.names, List.map_reverse, List.mem_reverse,
    ← Document.names, mem_names_writtenProperties]
  simp

/-- An update to a custom type that is the last one of its name leaves what the validator before and
    the updates in front of it say of the name.  So nothing is said of it exactly if the name is
    deleted or none of these gives it a property. -/
theorem property_of_custom_update {earlier later : List FieldUpdate} {update : FieldUpdate}
    (hcustom : update.dataType.isBuiltIn = false)
    (hlast : ∀ other ∈ later, other.name.storageName ≠ update.name.storageName)
    (deletes : List Key) (existing : Option Document) :
    propertyOf? (mergedValidator (earlier ++ update :: later) deletes existing)
        update.name.storageName =
      propertyOf? (mergedValidator earlier deletes existing) update.name.storageName ∧
    (propertyOf? (mergedValidator (earlier ++ update :: later) deletes existing)
          update.name.storageName = none ↔
      update.name.storageName ∈ deletes.map Key.storageName ∨
        (∀ other ∈ earlier, other.name.storageName = update.name.storageName →
          other.dataType.isBuiltIn = false) ∧
        existing.bind (propertyOf? · update.name.storageName) = none) := by
  have hlater : Document.get? (writtenProperties (update :: later)).reverse
      update.name.storageName = none := by
    rw [get?_reverse_writtenProperties_eq_none_iff]
    intro other hother hname
    rcases List.mem_cons.mp hother with rfl | hother
    · exact hcustom
    · exact (hlast other hother hname).elim
  have hsame : propertyOf? (mergedValidator (earlier ++ update :: later) deletes existing)
        update.name.storageName =
      propertyOf? (mergedValidator earlier deletes existing) update.name.storageName := by
    rw [propertyOf?_mergedValidator, propertyOf?_mergedValidator, writtenProperties_append,
      List.reverse_append, Document.get?_append, hlater, Option.none_or]
  refine ⟨hsame, ?_⟩
  rw [hsame, propertyOf?_mergedValidator, ← get?_reverse_writtenProperties_eq_none_iff]
  split
  · rename_i hdeleted
    simp [hdeleted]
  · rename_i hkept
    simp [hkept]

/-- The age of users, an integer before, becomes a point and is still asked to be an integer. -/
theorem property_of_custom_update_users :
    propertyOf? (mergedValidator
        [⟨.name "city", .string⟩, ⟨.name "age", .custom (.ofValue (.string "point"))⟩,
          ⟨.name "name", .json⟩] []
        (some (freshValidator
          [⟨.name "name", .string, [.required]⟩, ⟨.name "age", .int32, []⟩]))) "age" =
      some (.document [("bsonType", .string "int")]) := by
  have hlast : ∀ other ∈ [(⟨.name "name", .json⟩ : FieldUpdate)],
      other.name.storageName ≠ (Key.name "age").storageName := by
    intro other hother
    rw [List.mem_singleton.mp hother]
    decide
  have hsame := (@property_of_custom_update [⟨.name "city", .string⟩] [⟨.name "name", .json⟩]
    ⟨.name "age", .custom (.ofValue (.string "point"))⟩ rfl hlast [] (some (freshValidator
      [⟨.name "name", .string, [.required]⟩, ⟨.name "age", .int32, []⟩]))).1
  exact hsame.trans rfl

end SchemaChange

end DocQuery
