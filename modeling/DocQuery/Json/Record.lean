import DocQuery.Json

/-!
# Records and variants in JSON

A record is written as an object, in which names that it does not have are passed over unread, or
as the array of its parts in order.  A variant is written as its name, or as an object with that
name as its only member.
-/

namespace DocQuery

namespace Json

/-- The text of a string. -/
def asString? : Json → Option String
  | .string text => some text
  | _ => none

/-- The value of a truth value. -/
def asBool? : Json → Option Bool
  | .bool value => some value
  | _ => none

/-- The value of an integer from zero to a largest one. -/
def asNat? (largest : Nat) : Json → Option Nat
  | .number (.natural n) => if n.toNat ≤ largest then some n.toNat else none
  | _ => none

/-- The value of an unsigned 32-bit integer. -/
def asUInt32? (json : Json) : Option UInt32 := (json.asNat? (UInt32.size - 1)).map UInt32.ofNat

/-- The value of an unsigned 64-bit integer. -/
def asUInt64? (json : Json) : Option UInt64 := (json.asNat? (UInt64.size - 1)).map UInt64.ofNat

/-- The items of an array, each read in the same way. -/
def listOf? {α : Type} (read : Json → Option α) : Json → Option (List α)
  | .array items => items.mapM read
  | _ => none

/-- Nothing for a null, and otherwise what a reader makes of the value. -/
def orNull? {α : Type} (read : Json → Option α) : Json → Option (Option α)
  | .null => some none
  | json => (read json).map some

/-! ## Records -/

/-- The parts that are there of a record, by their names. -/
structure Record where
  parts : List (String × Json)

/-- The record with parts of the given names.  A name may not be repeated. -/
def record? (names : List String) : Json → Option Record
  | .object members =>
      let (parts, others) := members.partition fun member => member.1 ∈ names
      if (parts.map Prod.fst).Nodup ∧ membersPassable others then some ⟨parts⟩ else none
  | .array items => if items.length ≤ names.length then some ⟨names.zip items⟩ else none
  | _ => none

/-- The record of an object that has no other names than the given ones. -/
def closedRecord? (names : List String) : Json → Option Record
  | .object members =>
      if members.all fun member => member.1 ∈ names then record? names (.object members) else none
  | json => record? names json

namespace Record

variable {α : Type}

/-- The part of a name, which has to be there. -/
def required? (record : Record) (name : String) (read : Json → Option α) : Option α :=
  (record.parts.lookup name).bind read

/-- The part of a name, or a default where it is not there. -/
def orDefault? (record : Record) (name : String) (default : α) (read : Json → Option α) :
    Option α :=
  match record.parts.lookup name with
  | none => some default
  | some json => read json

/-- The part of a name, where neither its absence nor a null counts as one. -/
def optional? (record : Record) (name : String) (read : Json → Option α) : Option (Option α) :=
  record.orDefault? name none (orNull? read)

end Record

/-! ## Variants -/

/-- A variant: its name, and its content where one is written. -/
structure Variant where
  name : String
  content : Option Json

/-- The variant that a value is written as. -/
def variant? : Json → Option Variant
  | .string name => some ⟨name, none⟩
  | .object [(name, content)] => some ⟨name, some content⟩
  | _ => none

/-- Whether a variant carries nothing. -/
def Variant.isBare (variant : Variant) : Bool :=
  match variant.content with
  | none | some .null => true
  | _ => false

/-- The value that a table gives to a variant that carries nothing. -/
def bareVariant? {α : Type} (table : List (String × α)) (json : Json) : Option α := do
  let variant ← json.variant?
  if variant.isBare then table.lookup variant.name else none

end Json

end DocQuery
