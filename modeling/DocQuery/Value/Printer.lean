import DocQuery.Json
import DocQuery.Text.Base64
import DocQuery.Value.Text

/-!
# Writing stored values as JSON

Strings, booleans, null, arrays, documents and all numbers but decimals are written as such.  Any
other value is an object with an extended name, but bytes without a subtype are an array of numbers.
-/

namespace DocQuery

namespace Value

/-- An object with one member. -/
def tagged (name : String) (content : Json) : Json := .object [(name, content)]

/-- Bytes as an array of numbers. -/
def bytesJson (bytes : List UInt8) : Json := .array (bytes.map fun byte => .ofInt byte.toNat)

/-- A binary value. -/
def binaryJson (subtype : UInt8) (bytes : List UInt8) : Json :=
  if subtype = 0 then bytesJson bytes
  else
    tagged "$binary" (.object
      [("base64", .string (Text.base64 bytes)), ("subType", .string (Text.hexOfBytes [subtype]))])

/-- A value that has no values inside. -/
def scalarJson : Value → Json
  | .null => .null
  | .undefined => tagged "$undefined" (.bool true)
  | .minKey => tagged "$minKey" (.ofInt 1)
  | .maxKey => tagged "$maxKey" (.ofInt 1)
  | .boolean value => .bool value
  | .int32 n => .ofInt n.toInt
  | .int64 n => .ofInt n.toInt
  | .double x => .number (.real x)
  | .decimal d => tagged "$numberDecimal" (.string d.text)
  | .string text => .string text
  | .symbol text => tagged "$symbol" (.string text)
  | .javascript code => tagged "$code" (.string code)
  | .regex pattern options =>
      tagged "$regularExpression"
        (.object [("pattern", .string pattern), ("options", .string options)])
  | .binary subtype bytes => binaryJson subtype bytes
  | .objectId id => tagged "$oid" (.string id.hex)
  | .pointer collection id =>
      tagged "$dbPointer"
        (.object [("$ref", .string collection), ("$id", tagged "$oid" (.string id.hex))])
  | .dateTime millis =>
      tagged "$date" (tagged "$numberLong" (.string (toString millis.toInt)))
  | .timestamp time increment =>
      tagged "$timestamp" (.object [("t", .ofInt time.toNat), ("i", .ofInt increment.toNat)])
  | .array _ | .document _ | .scopedJavascript _ _ => .null

mutual

/-- A value. -/
def toJson : Value → Json
  | .array items => .array (itemsJson items)
  | .document fields => .object (fieldsJson fields)
  | .scopedJavascript code scope =>
      .object [("$code", .string code), ("$scope", .object (fieldsJson scope))]
  | scalar => scalarJson scalar
termination_by structural a => a

/-- The items of an array. -/
def itemsJson : List Value → List Json
  | [] => []
  | item :: rest => toJson item :: itemsJson rest
termination_by structural a => a

/-- The fields of a document. -/
def fieldsJson : List (String × Value) → List (String × Json)
  | [] => []
  | (name, value) :: rest => (name, toJson value) :: fieldsJson rest
termination_by structural a => a

end

end Value

/-- A document. -/
def Document.toJson (doc : Document) : Json := .object (Value.fieldsJson doc)

end DocQuery
