import DocQuery.Compile.Schema
import DocQuery.Proofs.Document.Basic
import Mathlib.Logic.Function.Basic

/-!
# What validators describe

A description gives data types to names and says which names have to be there.  A validator
describes it by one property for each typed name, in any order.  A new collection's validator
describes its definitions; an alteration of a validator describes the alteration of its
description, and of the empty one where there was no validator.
-/

namespace DocQuery

/-- Whether a data type is a built-in one. -/
def DataType.isBuiltIn : DataType → Bool
  | .custom _ => false
  | _ => true

/-- Whether a change has built-in data types only. -/
def SchemaChange.isBuiltIn (change : SchemaChange) : Bool :=
  change.createFields.all (·.dataType.isBuiltIn) && change.updateFields.all (·.dataType.isBuiltIn)

theorem DataType.exists_property {dataType : DataType} (h : dataType.isBuiltIn = true) :
    ∃ property, dataType.property = some property := by
  cases dataType <;> simp_all [isBuiltIn, property, tag?]

/-- A name with its data type. -/
abbrev TypedName := String × DataType

/-- The property of a typed name in a validator, if its type has one. -/
def TypedName.property? (typed : TypedName) : Option (String × Value) :=
  typed.2.property.map fun property => (typed.1, .document property)

/-- Names without a property are passed over. -/
theorem TypedName.sublist_names_property? (names : List TypedName) :
    List.Sublist ((names.filterMap property?).map Prod.fst) (names.map Prod.fst) := by
  induction names with
  | nil => exact .slnil
  | cons typed rest ih =>
    obtain ⟨name, dataType⟩ := typed
    cases hproperty : dataType.property with
    | none =>
      rw [List.filterMap_cons_none (by simp [property?, hproperty])]
      exact ih.cons _
    | some property =>
      rw [List.filterMap_cons_some (b := (name, .document property))
        (by simp [property?, hproperty])]
      exact ih.cons_cons _

def FieldDefinition.typedName (field : FieldDefinition) : TypedName :=
  (field.name.storageName, field.dataType)

def FieldUpdate.typedName (field : FieldUpdate) : TypedName :=
  (field.name.storageName, field.dataType)

/-! ## Descriptions -/

/-- The data types of names, and the names that have to be there. -/
structure Description where
  types : String → Option DataType
  required : List String

namespace Description

/-- The description that says nothing. -/
def empty : Description := ⟨fun _ => none, []⟩

/-- Data types with those of further names; the last one of a name counts. -/
def retyped (types : String → Option DataType) (names : List TypedName) :
    String → Option DataType :=
  names.foldl (fun types typed => Function.update types typed.1 (some typed.2)) types

/-- The description of a new collection. -/
def created (fields : List FieldDefinition) : Description where
  types := retyped (fun _ => none) (fields.map FieldDefinition.typedName)
  required := (fields.filter (·.isRequired)).map (·.name.storageName)

/-- A description with further types, and then without the deleted names. -/
def altered (description : Description) (updates : List FieldUpdate) (deletes : List Key) :
    Description where
  types := fun name =>
    if name ∈ deletes.map Key.storageName then none
    else retyped description.types (updates.map FieldUpdate.typedName) name
  required := description.required.filter fun name => name ∉ deletes.map Key.storageName

/-- A description after a change of the collection. -/
def changed (description : Description) (change : SchemaChange) : Description :=
  match change.action with
  | .create => created change.createFields
  | .update => description.altered change.updateFields change.deleteFields
  | .delete => empty

/-- What changes describe together, one behind the other from nothing. -/
def ofChanges (changes : List SchemaChange) : Description := changes.foldl changed empty

end Description

/-! ## Properties -/

/-- Whether properties give exactly some data types to names, each name once. -/
structure Document.Types (properties : Document) (types : String → Option DataType) : Prop where
  nodup : properties.names.Nodup
  get? : ∀ name, Document.get? properties name =
    ((types name).bind DataType.property).map .document

namespace Document.Types

variable {properties : Document} {types : String → Option DataType}

theorem nil : Document.Types [] (fun _ => none) := ⟨List.nodup_nil, fun _ => rfl⟩

theorem insert (h : properties.Types types) {name : String} {dataType : DataType}
    {property : Document} (hproperty : dataType.property = some property) :
    Document.Types (Document.insert properties name (.document property))
      (Function.update types name (some dataType)) := by
  refine ⟨nodup_names_insert h.nodup _ _, fun other => ?_⟩
  by_cases hname : other = name
  · subst hname
    simp [hproperty]
  · rw [get?_insert_of_ne _ hname, h.get?, Function.update_of_ne hname]

theorem erase (h : properties.Types types) (name : String) :
    Document.Types (Document.erase properties name) (Function.update types name none) := by
  refine ⟨nodup_names_erase h.nodup name, fun other => ?_⟩
  by_cases hname : other = name
  · subst hname
    simp
  · rw [get?_erase_of_ne _ hname, h.get?, Function.update_of_ne hname]

/-- The properties of typed names are written one behind the other, as their types are. -/
theorem insertAll (h : properties.Types types) {names : List TypedName}
    (hbuiltIn : ∀ typed ∈ names, typed.2.isBuiltIn = true) :
    Document.Types (Document.insertAll properties (names.filterMap TypedName.property?))
      (Description.retyped types names) := by
  induction names generalizing properties types with
  | nil => exact h
  | cons typed rest ih =>
    obtain ⟨htyped, hrest⟩ := List.forall_mem_cons.mp hbuiltIn
    obtain ⟨property, hproperty⟩ := DataType.exists_property htyped
    have hentry : typed.property? = some (typed.1, .document property) := by
      simp [TypedName.property?, hproperty]
    rw [List.filterMap_cons_some hentry]
    exact ih (h.insert hproperty) hrest

theorem eraseAll (h : properties.Types types) (names : List String) :
    Document.Types (names.foldl Document.erase properties)
      (fun name => if name ∈ names then none else types name) := by
  induction names generalizing properties types with
  | nil => simpa using h
  | cons first rest ih =>
    have hrest := ih (h.erase first)
    refine ⟨hrest.nodup, fun name => (hrest.get? name).trans ?_⟩
    by_cases hname : name = first <;> simp [hname]

end Document.Types

theorem SchemaChange.updateProperties_eq_insertAll (properties : Document)
    (updates : List FieldUpdate) :
    updateProperties properties updates =
      Document.insertAll properties
        ((updates.map FieldUpdate.typedName).filterMap TypedName.property?) := by
  unfold updateProperties
  induction updates generalizing properties with
  | nil => rfl
  | cons field rest ih =>
    rw [List.foldl_cons, ih, List.map_cons]
    cases hproperty : field.dataType.property with
    | none =>
      have hentry : field.typedName.property? = none := by
        simp [TypedName.property?, FieldUpdate.typedName, hproperty]
      rw [List.filterMap_cons_none hentry]
    | some property =>
      have hentry : field.typedName.property? =
          some (field.name.storageName, .document property) := by
        simp [TypedName.property?, FieldUpdate.typedName, hproperty]
      rw [List.filterMap_cons_some hentry]
      rfl

/-! ## Validators -/

namespace SchemaChange

/-- The fields of a validator's description with a list of required names or without one. -/
def schemaOf (required : Option (List String)) (properties : Document) : Document :=
  [("bsonType", .string "object")] ++
    required.toList.map (fun names => ("required", .array (names.map .string))) ++
    [("properties", .document properties)]

/-- A list of required names, where it is not empty. -/
def listed (required : List String) : Option (List String) :=
  if required.isEmpty then none else some required

/-- The validator with some required names and properties. -/
def validatorOf (required : List String) (properties : Document) : Document :=
  [(schemaOperator, .document (schemaOf (listed required) properties))]

theorem getArray?_schemaOf (required : Option (List String)) (properties : Document) :
    (Document.getArray? (schemaOf required properties) "required") =
      required.map fun names => names.map .string := by
  cases required <;> rfl

theorem getDocument?_schemaOf (required : Option (List String)) (properties : Document) :
    Document.getDocument? (schemaOf required properties) "properties" = some properties := by
  cases required <;> rfl

theorem insert_schemaOf (required : Option (List String)) (properties others : Document) :
    Document.insert (schemaOf required properties) "properties" (.document others) =
      schemaOf required others := by
  cases required <;> rfl

theorem freshValidator_eq (fields : List FieldDefinition) :
    freshValidator fields =
      validatorOf ((fields.filter (·.isRequired)).map (·.name.storageName))
        (Document.ofList
          ((fields.map FieldDefinition.typedName).filterMap TypedName.property?)) := by
  unfold freshValidator validatorOf schemaOf listed
  rw [List.filterMap_map]
  cases fields.filter (·.isRequired) <;> simp [Function.comp_def, TypedName.property?,
    FieldDefinition.typedName]

/-- A deleted name leaves the list of required ones, which may be empty then. -/
theorem dropRequired_schemaOf (required : Option (List String)) (properties : Document)
    (name : String) :
    dropRequired (schemaOf required properties) name =
      schemaOf (required.map fun names => names.filter (· ≠ name)) properties := by
  cases required with
  | none => rfl
  | some names =>
    have hfilter : (names.map Value.string).filter (fun entry => entry.asString? ≠ some name) =
        (names.filter (· ≠ name)).map Value.string := by
      rw [List.filter_map]
      simp [Function.comp_def, Value.asString?]
    rw [dropRequired, getArray?_schemaOf]
    dsimp only [Option.map_some]
    rw [hfilter]
    rfl

theorem foldl_dropRequired_schemaOf (required : Option (List String)) (properties : Document)
    (names : List String) :
    names.foldl dropRequired (schemaOf required properties) =
      schemaOf (required.map fun kept => kept.filter (· ∉ names)) properties := by
  induction names generalizing required with
  | nil => cases required <;> simp
  | cons name rest ih =>
    rw [List.foldl_cons, dropRequired_schemaOf, ih]
    cases required with
    | none => rfl
    | some kept => simp [List.filter_filter, Bool.and_comm]

/-- A list of required names that has become empty is left out. -/
theorem dropEmptyRequired_schemaOf (required : Option (List String)) (properties : Document) :
    dropEmptyRequired (schemaOf required properties) =
      schemaOf (required.bind listed) properties := by
  rcases required with _ | _ | ⟨name, rest⟩ <;> rfl

/-- An alteration of a validator keeps its shape. -/
theorem mergedValidator_validatorOf (updates : List FieldUpdate) (deletes : List Key)
    (required : List String) (properties : Document) :
    mergedValidator updates deletes (some (validatorOf required properties)) =
      validatorOf (required.filter (· ∉ deletes.map Key.storageName))
        ((deletes.map Key.storageName).foldl Document.erase
          (updateProperties properties updates)) := by
  have hschema : Document.getDocument? (validatorOf required properties) schemaOperator =
      some (schemaOf (listed required) properties) := rfl
  have hlisted : ((listed required).map fun names => names.filter
      (· ∉ deletes.map Key.storageName)).bind listed =
        listed (required.filter (· ∉ deletes.map Key.storageName)) := by
    cases required <;> rfl
  unfold mergedValidator
  dsimp only [Option.bind_some]
  rw [hschema, Option.getD_some, getDocument?_schemaOf, foldl_dropRequired_schemaOf,
    dropEmptyRequired_schemaOf, insert_schemaOf, hlisted]
  rfl

/-- An alteration of a collection without a validator builds one from nothing. -/
theorem mergedValidator_none (updates : List FieldUpdate) (deletes : List Key) :
    mergedValidator updates deletes none =
      validatorOf []
        ((deletes.map Key.storageName).foldl Document.erase (updateProperties [] updates)) := by
  have hschema : ∀ names : List String,
      names.foldl dropRequired [("bsonType", .string "object")] =
        [("bsonType", .string "object")] := by
    intro names
    induction names with
    | nil => rfl
    | cons name rest ih => exact ih
  unfold mergedValidator
  dsimp only [Option.bind_none, Option.getD_none]
  rw [hschema]
  rfl

end SchemaChange

/-! ## Validators and descriptions -/

/-- Whether a validator describes the types and required names of a description, and nothing
    else. -/
def Description.IsDescribedBy (description : Description) (validator : Document) : Prop :=
  ∃ properties : Document, properties.Types description.types ∧
    validator = SchemaChange.validatorOf description.required properties

namespace Description

open SchemaChange

theorem isDescribedBy_freshValidator {fields : List FieldDefinition}
    (hbuiltIn : ∀ field ∈ fields, field.dataType.isBuiltIn = true) :
    (created fields).IsDescribedBy (freshValidator fields) := by
  refine ⟨_, Document.Types.nil.insertAll ?_, freshValidator_eq fields⟩
  simpa [FieldDefinition.typedName] using hbuiltIn

theorem types_altered {properties : Document} {description : Description}
    {updates : List FieldUpdate} (deletes : List Key) (h : properties.Types description.types)
    (hbuiltIn : ∀ field ∈ updates, field.dataType.isBuiltIn = true) :
    Document.Types
      ((deletes.map Key.storageName).foldl Document.erase (updateProperties properties updates))
      (description.altered updates deletes).types := by
  rw [updateProperties_eq_insertAll]
  refine (h.insertAll ?_).eraseAll _
  simpa [FieldUpdate.typedName] using hbuiltIn

theorem IsDescribedBy.mergedValidator {description : Description} {validator : Document}
    {updates : List FieldUpdate} (deletes : List Key) (h : description.IsDescribedBy validator)
    (hbuiltIn : ∀ field ∈ updates, field.dataType.isBuiltIn = true) :
    (description.altered updates deletes).IsDescribedBy
      (mergedValidator updates deletes (some validator)) := by
  obtain ⟨properties, htypes, rfl⟩ := h
  exact ⟨_, types_altered deletes htypes hbuiltIn,
    mergedValidator_validatorOf updates deletes description.required properties⟩

theorem isDescribedBy_mergedValidator_none {updates : List FieldUpdate} (deletes : List Key)
    (hbuiltIn : ∀ field ∈ updates, field.dataType.isBuiltIn = true) :
    (empty.altered updates deletes).IsDescribedBy (mergedValidator updates deletes none) :=
  ⟨_, types_altered deletes Document.Types.nil hbuiltIn, mergedValidator_none updates deletes⟩

end Description

end DocQuery
