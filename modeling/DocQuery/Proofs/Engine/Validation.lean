import DocQuery.Engine.Validation
import DocQuery.Proofs.Compile.Schema
import DocQuery.Proofs.Value.Order

/-!
# What fresh validators accept

A document passes the validator of a new collection exactly if the required fields are there and
each defined field that is there has a value of its data type.  The validator sees types by their
names and the cases of an enumeration by equality of values, under which a symbol equals every text;
documents with symbols are left out.
-/

namespace DocQuery

/-- Whether a value is one of a data type.  A case of an enumeration is the text of its name, and a
    custom type asks for nothing. -/
def DataType.Admits (value : Value) : DataType → Prop
  | .bool => ∃ truth, value = .boolean truth
  | .int8 | .int16 | .int32 | .uint8 | .uint16 => ∃ n, value = .int32 n
  | .int64 | .uint32 | .uint64 => ∃ n, value = .int64 n
  | .float | .double => ∃ x, value = .double x
  | .string => ∃ text, value = .string text
  | .date | .datetime | .time => ∃ millis, value = .dateTime millis
  | .uuid | .data => ∃ subtype bytes, value = .binary subtype bytes
  | .json | .dictionary _ => ∃ fields, value = .document fields
  | .array _ => ∃ items, value = .array items
  | .enumeration _ cases => ∃ name ∈ cases, value = .string name
  | .custom _ => True

/-- A data type that says something says it by the name of a type, or by the cases of an
    enumeration. -/
theorem DataType.property_cases {dataType : DataType} {property : Document}
    (h : dataType.property = some property) :
    (∃ tag, dataType.tag? = some tag ∧ property = [("bsonType", .string tag)]) ∨
      ∃ name cases, dataType = .enumeration name cases ∧
        property = [("enum", .array (cases.map .string))] := by
  cases dataType with
  | enumeration name cases => exact .inr ⟨name, cases, rfl, (Option.some.inj h).symm⟩
  | custom node => cases h
  | _ => exact .inl ⟨_, rfl, (Option.some.inj h).symm⟩

/-- A custom type asks for nothing. -/
theorem DataType.admits_of_property_eq_none {dataType : DataType}
    (h : dataType.property = none) (value : Value) : dataType.Admits value := by
  cases dataType <;> simp_all [property, tag?, Admits]

/-- A text equals itself and, of all other values, the symbols only. -/
theorem Value.equal_string {text : String} {value : Value}
    (hsymbol : ∀ other, value ≠ .symbol other) :
    (Value.string text).equal value = true ↔ value = .string text := by
  constructor
  · intro h
    rw [equal_iff] at h
    have hbracket := bracket_eq_of_order_eq h
    cases value with
    | string other =>
      have hcompare : compare text other = .eq := h
      rw [Std.LawfulEqOrd.compare_eq_iff_eq.mp hcompare]
    | symbol other => exact (hsymbol other rfl).elim
    | _ => simp [bracket] at hbracket
  · rintro rfl
    exact equal_self _

namespace Validation

/-- The values with the type name of a data type are those of the data type. -/
theorem hasType_iff_admits {dataType : DataType} {tag : String} (h : dataType.tag? = some tag)
    (value : Value) : hasType value tag = true ↔ dataType.Admits value := by
  cases dataType <;> cases h <;> cases value <;> simp [hasType, DataType.Admits, Value.typeName]

theorem typeViolation?_eq_none_iff (name : String) (value : Value) (tag : String) :
    typeViolation? name value [("bsonType", .string tag)] = none ↔ hasType value tag = true := by
  simp [typeViolation?, Document.get?]

theorem caseViolation?_eq_none_iff (name : String) {value : Value} (cases : List String)
    (hsymbol : ∀ other, value ≠ .symbol other) :
    caseViolation? name value [("enum", .array (cases.map .string))] = none ↔
      ∃ case ∈ cases, value = .string case := by
  have hcases : Document.getArray? [("enum", .array (cases.map .string))] "enum" =
      some (cases.map .string) := rfl
  rw [caseViolation?, hcases]
  simp [Value.equal_string hsymbol]

/-- A field with a property passes it if it is missing or has a value of the property's data
    type. -/
theorem fieldViolation?_eq_none_iff {doc : Document} {name : String} {dataType : DataType}
    {property : Document} (hproperty : dataType.property = some property)
    (hsymbols : ∀ field ∈ doc, ∀ text, field.2 ≠ .symbol text) :
    fieldViolation? doc (name, .document property) = none ↔
      ∀ value, Document.get? doc name = some value → dataType.Admits value := by
  cases hvalue : Document.get? doc name with
  | none => simp [fieldViolation?, hvalue]
  | some value =>
    have hsymbol := hsymbols _ (Document.mem_of_get? hvalue)
    have hviolation : fieldViolation? doc (name, .document property) =
        (typeViolation? name value property).or (caseViolation? name value property) := by
      rw [fieldViolation?, hvalue]
    rw [hviolation, Option.or_eq_none_iff]
    rcases DataType.property_cases hproperty with ⟨tag, htag, rfl⟩ | ⟨_, cases, rfl, rfl⟩
    · have hcases : caseViolation? name value [("bsonType", .string tag)] = none := rfl
      simp [hcases, typeViolation?_eq_none_iff, hasType_iff_admits htag]
    · have htype : typeViolation? name value [("enum", .array (cases.map .string))] = none := rfl
      simp [htype, caseViolation?_eq_none_iff name cases hsymbol, DataType.Admits]

theorem missing?_eq_none_iff (doc : Document) (required : List String) (properties : Document) :
    missing? doc (SchemaChange.schemaOf (SchemaChange.listed required) properties) = none ↔
      ∀ name ∈ required, doc.has name = true := by
  have hrequired : (Document.getArray?
      (SchemaChange.schemaOf (SchemaChange.listed required) properties) "required").getD [] =
        required.map .string := by
    rw [SchemaChange.getArray?_schemaOf]
    cases required <;> rfl
  rw [missing?, hrequired, List.filterMap_map]
  simp [List.findSome?_eq_none_iff, Function.comp_def, Value.asString?]

end Validation

open Validation SchemaChange

/-- A validator of required names and properties asks for the names and for each property. -/
theorem Document.violation?_validatorOf_eq_none_iff (doc : Document) (required : List String)
    (properties : Document) :
    doc.violation? (validatorOf required properties) = none ↔
      (∀ name ∈ required, doc.has name = true) ∧
        ∀ property ∈ properties, fieldViolation? doc property = none := by
  have hschema : getDocument? (validatorOf required properties) schemaOperator =
      some (schemaOf (listed required) properties) := rfl
  rw [violation?, hschema]
  dsimp only
  rw [getDocument?_schemaOf, Option.or_eq_none_iff, missing?_eq_none_iff,
    Option.getD_some, List.findSome?_eq_none_iff]

/-- A document without symbols passes the validator of definitions with distinct names exactly if
    each required name is one of its keys and each defined field that it has holds a value of the
    defined type.  Fields of custom types and fields without a definition are free beyond that. -/
theorem SchemaChange.freshValidator_accepts_iff {fields : List FieldDefinition}
    (hdistinct : (fields.map (·.name.storageName)).Nodup) {doc : Document}
    (hsymbols : ∀ field ∈ doc, ∀ text, field.2 ≠ .symbol text) :
    doc.violation? (freshValidator fields) = none ↔
      (∀ field ∈ fields, field.isRequired = true → doc.has field.name.storageName = true) ∧
        ∀ field ∈ fields, ∀ value, doc.get? field.name.storageName = some value →
          field.dataType.Admits value := by
  -- Distinct names are described one by one, in the order of the definitions.
  have hnames := TypedName.sublist_names_property? (fields.map FieldDefinition.typedName)
  rw [List.map_map] at hnames
  rw [freshValidator_eq, Document.ofList_eq_self (hdistinct.sublist hnames),
    Document.violation?_validatorOf_eq_none_iff]
  refine and_congr ?presence ?values
  case presence =>
    simp only [List.mem_map, List.mem_filter]
    constructor
    · intro h field hfield hrequired
      exact h _ ⟨field, ⟨hfield, hrequired⟩, rfl⟩
    · rintro h _ ⟨field, ⟨hfield, hrequired⟩, rfl⟩
      exact h field hfield hrequired
  case values =>
    simp only [List.mem_filterMap, List.mem_map]
    constructor
    · intro h field hfield
      cases hproperty : field.dataType.property with
      | none => exact fun value _ => DataType.admits_of_property_eq_none hproperty value
      | some property =>
        have hentry : field.typedName.property? =
            some (field.name.storageName, .document property) := by
          simp [TypedName.property?, FieldDefinition.typedName, hproperty]
        exact (fieldViolation?_eq_none_iff hproperty hsymbols).mp
          (h _ ⟨_, ⟨field, hfield, rfl⟩, hentry⟩)
    · rintro h _ ⟨_, ⟨field, hfield, rfl⟩, hentry⟩
      obtain ⟨property, hproperty, rfl⟩ := Option.map_eq_some_iff.mp hentry
      exact (fieldViolation?_eq_none_iff hproperty hsymbols).mpr (h field hfield)

/-- A role that is none of the cases does not pass; the place is of a custom type and passes. -/
theorem SchemaChange.freshValidator_accepts_iff_members :
    let fields : List FieldDefinition :=
      [⟨.name "name", .string, [.required]⟩,
        ⟨.name "role", .enumeration "role" ["admin", "member"], []⟩,
        ⟨.name "place", .custom (.ofValue .null), [.required]⟩]
    Document.violation? [("name", .string "Ada"), ("role", .string "admin"), ("place", .int32 1)]
        (freshValidator fields) = none ∧
      Document.violation? [("name", .string "Ada"), ("role", .string "guest"), ("place", .int32 1)]
        (freshValidator fields) ≠ none := by
  intro fields
  have hdistinct : (fields.map (·.name.storageName)).Nodup := by decide
  constructor
  · refine (SchemaChange.freshValidator_accepts_iff hdistinct (by simp)).mpr ?_
    simp [fields, Document.has, Document.get?, Key.storageName, DataType.Admits]
  · intro h
    have hroles := ((SchemaChange.freshValidator_accepts_iff hdistinct (by simp)).mp h).2
    have hrole : DataType.Admits (.string "guest") (.enumeration "role" ["admin", "member"]) :=
      hroles ⟨.name "role", .enumeration "role" ["admin", "member"], []⟩ (by simp [fields]) _ rfl
    simp [DataType.Admits] at hrole

end DocQuery
