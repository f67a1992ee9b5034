import DocQuery.Binary64.Decimal
import DocQuery.Calendar
import DocQuery.Text.Base64
import DocQuery.Text.Quoted
import DocQuery.Value.Decimal128

/-!
# Texts of values in messages

A message shows a value in one of two ways.  `Value.text` is short and leaves strings as they are;
`Value.typedText` names the type of every part and quotes strings with escapes.
-/

namespace DocQuery

/-- Texts between brackets, with commas between them. -/
def bracketed (items : List String) : String := "[" ++ ", ".intercalate items ++ "]"

/-- Texts between braces, with commas between them. -/
def braced (items : List String) : String := "\x7b" ++ ", ".intercalate items ++ "\x7d"

/-- Texts between braces that are set off by blanks, if there are any. -/
def spacedBraces (items : List String) : String :=
  if items.isEmpty then "\x7b\x7d" else "\x7b " ++ ", ".intercalate items ++ " \x7d"

namespace Value

/-- The short text of a value that is no array or document; a scope is not shown. -/
def scalarText : Value → String
  | .null => "null"
  | .undefined => "undefined"
  | .minKey => "MinKey"
  | .maxKey => "MaxKey"
  | .boolean value => if value then "true" else "false"
  | .int32 n => toString n.toInt
  | .int64 n => toString n.toInt
  | .double x => Binary64.plain.render x
  | .decimal d => d.text
  | .string text => "\"" ++ text ++ "\""
  | .symbol text => "Symbol(\"" ++ text ++ "\")"
  | .javascript code | .scopedJavascript code _ => code
  | .regex pattern options => "/" ++ pattern ++ "/" ++ options
  | .binary subtype bytes =>
      "Binary(0x" ++ String.ofList (Nat.toDigits 16 subtype.toNat) ++ ", " ++ Text.base64 bytes ++
        ")"
  | .objectId id => "ObjectId(\"" ++ id.hex ++ "\")"
  | .pointer collection id => "DbPointer(" ++ collection ++ ", " ++ id.hex ++ ")"
  | .dateTime millis => "DateTime(\"" ++ Calendar.text millis.toInt ++ "\")"
  | .timestamp time increment =>
      "Timestamp(" ++ toString time.toNat ++ ", " ++ toString increment.toNat ++ ")"
  | .array _ | .document _ => ""

mutual

/-- The short text of a value. -/
def text : Value → String
  | .array items => bracketed (itemTexts items)
  | .document fields => spacedBraces (fieldTexts fields)
  | scalar => scalarText scalar
termination_by structural a => a

/-- The short texts of values. -/
def itemTexts : List Value → List String
  | [] => []
  | item :: rest => text item :: itemTexts rest
termination_by structural a => a

/-- The short texts of fields. -/
def fieldTexts : List (String × Value) → List String
  | [] => []
  | (name, value) :: rest => ("\"" ++ name ++ "\": " ++ text value) :: fieldTexts rest
termination_by structural a => a

end

/-- The name of a binary subtype. -/
def subtypeText (subtype : UInt8) : String :=
  match subtype.toNat with
  | 0 => "Generic"
  | 1 => "Function"
  | 2 => "BinaryOld"
  | 3 => "UuidOld"
  | 4 => "Uuid"
  | 5 => "Md5"
  | 6 => "Encrypted"
  | 7 => "Column"
  | 8 => "Sensitive"
  | 9 => "Vector"
  | n => (if n < 128 then "Reserved(" else "UserDefined(") ++ toString n ++ ")"

/-- The typed text of a value that has no values inside. -/
def typedScalarText : Value → String
  | .null => "Null"
  | .undefined => "Undefined"
  | .minKey => "MinKey"
  | .maxKey => "MaxKey"
  | .boolean value => "Boolean(" ++ (if value then "true" else "false") ++ ")"
  | .int32 n => "Int32(" ++ toString n.toInt ++ ")"
  | .int64 n => "Int64(" ++ toString n.toInt ++ ")"
  | .double x => "Double(" ++ Binary64.marked.render x ++ ")"
  | .decimal d => "Decimal128(" ++ Text.hexOfBytes d.bytes ++ ")"
  | .string text => "String(" ++ Text.quoted text ++ ")"
  | .symbol text => "Symbol(" ++ Text.quoted text ++ ")"
  | .javascript code => "JavaScriptCode(" ++ Text.quoted code ++ ")"
  | .regex pattern options =>
      "Regex \x7b pattern: " ++ Text.quoted pattern ++ ", options: " ++ Text.quoted options ++
        " \x7d"
  | .binary subtype bytes =>
      "Binary \x7b subtype: " ++ subtypeText subtype ++ ", bytes: " ++
        bracketed (bytes.map fun byte => toString byte.toNat) ++ " \x7d"
  | .objectId id => "ObjectId(\"" ++ id.hex ++ "\")"
  | .pointer collection id =>
      "DbPointer \x7b namespace: " ++ Text.quoted collection ++ ", id: ObjectId(\"" ++ id.hex ++
        "\") \x7d"
  | .dateTime millis => "DateTime(" ++ Calendar.text millis.toInt ++ ")"
  | .timestamp time increment =>
      "Timestamp \x7b time: " ++ toString time.toNat ++ ", increment: " ++
        toString increment.toNat ++ " \x7d"
  | .array _ | .document _ | .scopedJavascript _ _ => ""

mutual

/-- The typed text of a value. -/
def typedText : Value → String
  | .array items => "Array(" ++ bracketed (typedItemTexts items) ++ ")"
  | .document fields => "Document(" ++ braced (typedFieldTexts fields) ++ ")"
  | .scopedJavascript code scope =>
      "JavaScriptCodeWithScope \x7b code: " ++ Text.quoted code ++ ", scope: Document(" ++
        braced (typedFieldTexts scope) ++ ") \x7d"
  | scalar => typedScalarText scalar
termination_by structural a => a

/-- The typed texts of values. -/
def typedItemTexts : List Value → List String
  | [] => []
  | item :: rest => typedText item :: typedItemTexts rest
termination_by structural a => a

/-- The typed texts of fields. -/
def typedFieldTexts : List (String × Value) → List String
  | [] => []
  | (name, value) :: rest =>
      (Text.quoted name ++ ": " ++ typedText value) :: typedFieldTexts rest
termination_by structural a => a

end

end Value

/-- The short text of a document. -/
def Document.text (doc : Document) : String := (Value.document doc).text

end DocQuery
