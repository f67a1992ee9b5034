import DocQuery.Compile.Schema
import DocQuery.Engine.Error
import DocQuery.Value.Order

/-!
# Validation

A validator names fields that have to be there and says what the values of others may be.  The first
violation counts: required fields first, then the described ones in order.
-/

namespace DocQuery

namespace Validation

/-- Whether a value has a type by its validator name; `number` stands for every numeric type. -/
def hasType (value : Value) (expected : String) : Bool :=
  if expected = "number" then
    match value with
    | .int32 _ | .int64 _ | .double _ | .decimal _ => true
    | _ => false
  else value.typeName = expected

/-- The violation of a described type, which is a name or a list of names. -/
def typeViolation? (name : String) (value : Value) (property : Document) : Option Violation :=
  match Document.get? property "bsonType" with
  | some (.string expected) =>
      if hasType value expected then none else some (.wrongType name expected value.typeName)
  | some (.array allowed) =>
      if (allowed.filterMap Value.asString?).any (hasType value) then none
      else some (.disallowedType name value.typeName)
  | _ => none

/-- The violation of a described list of values. -/
def caseViolation? (name : String) (value : Value) (property : Document) : Option Violation :=
  match Document.getArray? property "enum" with
  | some cases =>
      if cases.any fun candidate => candidate.equal value then none
      else some (.notOneOf name cases)
  | none => none

/-- The violation of a described field. -/
def fieldViolation? (doc : Document) (field : String × Value) : Option Violation :=
  match Document.get? doc field.1, field.2 with
  | some value, .document property =>
      (typeViolation? field.1 value property).or (caseViolation? field.1 value property)
  | _, _ => none

/-- The first required field that is missing. -/
def missing? (doc schema : Document) : Option Violation :=
  (((Document.getArray? schema "required").getD []).filterMap Value.asString?).findSome?
    fun name => if Document.has doc name then none else some (.missingField name)

end Validation

/-- The first violation of a validator by a document. -/
def Document.violation? (doc validator : Document) : Option Violation :=
  match Document.getDocument? validator schemaOperator with
  | some schema =>
      (Validation.missing? doc schema).or
        (((Document.getDocument? schema "properties").getD []).findSome?
          (Validation.fieldViolation? doc))
  | none => none

end DocQuery
