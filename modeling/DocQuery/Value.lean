import DocQuery.Binary64
import DocQuery.ObjectId

/-!
# Stored values

A collection holds documents: ordered lists of named values.  A value is a scalar of one of the
store's types, an array of values or a document again.
-/

namespace DocQuery

/-- A decimal floating-point number, as the number that its sixteen bytes spell, least significant
    byte first. -/
structure Decimal128 where
  word : BitVec 128
deriving DecidableEq, Repr, Inhabited

/-- A stored value. -/
inductive Value where
  | null
  | undefined
  | minKey
  | maxKey
  | boolean (value : Bool)
  | int32 (value : Int32)
  | int64 (value : Int64)
  | double (value : Binary64)
  | decimal (value : Decimal128)
  | string (text : String)
  | symbol (text : String)
  | javascript (code : String)
  /-- Code with the values that its free names stand for. -/
  | scopedJavascript (code : String) (scope : List (String × Value))
  | regex (pattern options : String)
  | binary (subtype : UInt8) (bytes : List UInt8)
  | objectId (id : ObjectId)
  /-- A document of a collection, by its identity. -/
  | pointer (collection : String) (id : ObjectId)
  /-- An instant in milliseconds since the epoch. -/
  | dateTime (millis : Int64)
  | timestamp (time increment : UInt32)
  | array (items : List Value)
  | document (fields : List (String × Value))
deriving Inhabited

/-- A document: named values in order.  All operations keep the names distinct. -/
abbrev Document := List (String × Value)

namespace Value

/-- The items of an array. -/
def asArray? : Value → Option (List Value)
  | .array items => some items
  | _ => none

/-- The fields of a document. -/
def asDocument? : Value → Option Document
  | .document fields => some fields
  | _ => none

/-- The text of a string. -/
def asString? : Value → Option String
  | .string text => some text
  | _ => none

/-- The truth value of a boolean. -/
def asBoolean? : Value → Option Bool
  | .boolean value => some value
  | _ => none

/-- The number nearest to an integer or double; decimals have none. -/
def asDouble? : Value → Option Binary64
  | .int32 n => some (.ofInt n.toInt)
  | .int64 n => some (.ofInt n.toInt)
  | .double x => some x
  | _ => none

/-- Whether a value is null. -/
def isNull : Value → Bool
  | .null => true
  | _ => false

/-- Whether a condition with this value holds: false, null, undefined and the zeros do not, anything
    else does. -/
def isTruthy : Value → Bool
  | .boolean value => value
  | .null | .undefined => false
  | .int32 n => n != 0
  | .int64 n => n != 0
  | .double x => !x.isZero
  | _ => true

/-- The name of a value's type in a validator. -/
def typeName : Value → String
  | .double _ => "double"
  | .string _ => "string"
  | .document _ => "object"
  | .array _ => "array"
  | .binary _ _ => "binData"
  | .objectId _ => "objectId"
  | .boolean _ => "bool"
  | .dateTime _ => "date"
  | .null => "null"
  | .int32 _ => "int"
  | .int64 _ => "long"
  | .decimal _ => "decimal"
  | .timestamp _ _ => "timestamp"
  | _ => "other"

end Value

end DocQuery
