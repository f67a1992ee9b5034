import DocQuery.Binary64.Reader
import DocQuery.Calendar.Reader
import DocQuery.Document
import DocQuery.Text.Base64
import DocQuery.Text.Number
import DocQuery.Value.Decimal128.Reader

/-!
# Documents that spell values

A document with an extended name such as `$oid` and nothing else in it spells the value of that
name's content, and code and a scope side by side spell code with a scope.  `Value.spelled` puts
such values in the place of their documents, from the inside out; a document whose content does not
fit its name stands for itself.  In the readable form decimal numbers pass through their text.
-/

namespace DocQuery

namespace Value

/-- The name of code. -/
def codeName : String := "$code"

/-- The name of the scope of code. -/
def scopeName : String := "$scope"

/-- The regular expression of a pattern and options, which are put in order. -/
def orderedRegex (pattern options : String) : Value :=
  .regex pattern (String.ofList (options.toList.mergeSort fun a b => decide (a ≤ b)))

/-- The binary value of bytes in base 64 and a subtype in hexadecimal digits. -/
def binaryOfTexts? (digits subtype : String) : Option Value := do
  let bytes ← Text.bytesOfBase64? digits
  match ← Text.bytesOfHex? subtype with
  | [subtype] => return .binary subtype bytes
  | _ => none

/-- The decimal number that sixteen bytes spell. -/
def decimalOfBytes? (bytes : List UInt8) : Option Value :=
  if bytes.length = 16 then some (.decimal (.ofBytes bytes)) else none

/-- The bytes of a binary value without a subtype. -/
def asBytes? : Value → Option (List UInt8)
  | .binary subtype bytes => if subtype = 0 then some bytes else none
  | _ => none

/-! ## Contents of extended names -/

/-- The binary value of a text and its subtype, or of bytes and the number of their subtype. -/
def binaryOfFields? (fields : Document) : Option Value :=
  match fields.get? "base64", fields.get? "subType", fields.get? "bytes" with
  | some (.string digits), some (.string subtype), _ => binaryOfTexts? digits subtype
  | some (.string _), _, _ => none
  | _, some (.int32 subtype), some bytes =>
      if 0 ≤ subtype.toInt ∧ subtype.toInt < 256 then
        bytes.asBytes?.map (.binary (UInt8.ofNat subtype.toInt.toNat))
      else none
  | _, _, _ => none

/-- A timestamp of two integers of one width; narrow ones below zero count from the end of the
    range. -/
def timestampOfFields? (fields : Document) : Option Value :=
  match fields.get? "t", fields.get? "i" with
  | some (.int32 time), some (.int32 increment) =>
      some (.timestamp time.toUInt32 increment.toUInt32)
  | some (.int64 time), some (.int64 increment) =>
      if 0 ≤ time.toInt ∧ 0 ≤ increment.toInt ∧
          time.toInt < UInt32.size ∧ increment.toInt < UInt32.size then
        some (.timestamp (.ofNat time.toInt.toNat) (.ofNat increment.toInt.toNat))
      else none
  | _, _ => none

/-- A regular expression. -/
def regexOfFields? (fields : Document) : Option Value := do
  return orderedRegex (← fields.getString? "pattern") (← fields.getString? "options")

/-- A pointer to a document of a collection. -/
def pointerOfFields? (fields : Document) : Option Value := do
  let collection ← fields.getString? "$ref"
  match ← fields.get? "$id" with
  | .objectId id => return .pointer collection id
  | _ => none

/-- An instant: milliseconds since the epoch, or a calendar text. -/
def instantOf? : Value → Option Value
  | .int64 millis => some (.dateTime millis)
  | .string text => (Calendar.millisOfString? text).map fun n => .dateTime (Int64.ofInt n)
  | _ => none

/-- Whether a value is the integer one. -/
def isOne : Value → Bool
  | .int32 n => n == 1
  | .int64 n => n == 1
  | _ => false

/-- The extended names with texts as contents, with what the texts spell. -/
def textSpellings : List (String × (String → Option Value)) :=
  [("$oid", fun text => (ObjectId.ofHex? text).map .objectId),
    ("$symbol", fun text => some (.symbol text)),
    ("$numberInt", fun text => (Text.signed? 32 text).map fun n => .int32 (Int32.ofInt n)),
    ("$numberLong", fun text => (Text.signed? 64 text).map fun n => .int64 (Int64.ofInt n)),
    ("$numberDouble", fun text => (Binary64.ofString? text).map .double),
    ("$numberDecimal", fun text => (Decimal128.ofString? text).map .decimal)]

/-- The extended names, with what their contents spell. -/
def spellings : List (String × (Value → Option Value)) :=
  textSpellings.map (fun (name, read) => (name, fun content => content.asString?.bind read)) ++
  [("$numberDecimalBytes", fun content => content.asBytes?.bind decimalOfBytes?),
    ("$binary", fun content => content.asDocument?.bind binaryOfFields?),
    (codeName, fun content => content.asString?.map .javascript),
    ("$timestamp", fun content => content.asDocument?.bind timestampOfFields?),
    ("$regularExpression", fun content => content.asDocument?.bind regexOfFields?),
    ("$dbPointer", fun content => content.asDocument?.bind pointerOfFields?),
    ("$date", instantOf?),
    ("$minKey", fun content => if content.isOne then some .minKey else none),
    ("$maxKey", fun content => if content.isOne then some .maxKey else none),
    ("$undefined", fun content =>
      if content.asBoolean? = some true then some .undefined else none)]

/-- Code with a scope. -/
def scopedCode? (code scope : Value) : Option Value := do
  return .scopedJavascript (← code.asString?) (← scope.asDocument?)

/-- The value that a document spells with its names alone. -/
def spelling? : Document → Option Value
  | [(name, content)] => (spellings.lookup name).bind fun read => read content
  | [(first, a), (second, b)] =>
      if first = codeName ∧ second = scopeName then scopedCode? a b
      else if first = scopeName ∧ second = codeName then scopedCode? b a
      else none
  | _ => none

/-- The value that a document spells, or itself. -/
def ofFields (fields : Document) : Value := (spelling? fields).getD (.document fields)

/-! ## Values -/

mutual

/-- The value with the values in it that its documents spell.  A decimal number that passes through
    its text comes back in its usual encoding. -/
def spelled (readable : Bool) : Value → Value
  | .array items => .array (spelledItems readable items)
  | .document fields => ofFields (spelledFields readable fields)
  | .scopedJavascript code scope =>
      ofFields [(codeName, .string code), (scopeName, ofFields (spelledFields readable scope))]
  | .regex pattern options => orderedRegex pattern options
  | .decimal d => .decimal (if readable then d.canonical else d)
  | scalar => scalar
termination_by structural a => a

/-- The items with the values that they spell. -/
def spelledItems (readable : Bool) : List Value → List Value
  | [] => []
  | item :: rest => spelled readable item :: spelledItems readable rest
termination_by structural a => a

/-- The fields with the values that theirs spell. -/
def spelledFields (readable : Bool) : List (String × Value) → List (String × Value)
  | [] => []
  | (name, value) :: rest => (name, spelled readable value) :: spelledFields readable rest
termination_by structural a => a

end

end Value

end DocQuery
