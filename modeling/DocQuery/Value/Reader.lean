import DocQuery.Json.Record
import DocQuery.Value.Extended

/-!
# Reading stored values from JSON

An object stands for a document, unless it has an extended name such as `$oid`: then it stands for
the value that the content of that name spells, whatever came before it, and nothing may follow but
the other half of code with a scope.  An integer that is not negative takes the narrowest width, a
negative one always 64 bits.
-/

namespace DocQuery

namespace Value

/-- The largest 64-bit integer. -/
def maxInt64 : Nat := Nat.pow 2 63 - 1

/-- The value of an integer from zero on. -/
def ofNatural? (n : Nat) : Option Value :=
  if n < Nat.pow 2 31 then some (.int32 (Int32.ofInt n))
  else if n ≤ maxInt64 then some (.int64 (Int64.ofInt n))
  else none

/-- A byte as a JSON number. -/
def byteOfJson? (json : Json) : Option UInt8 := (json.asNat? 255).map UInt8.ofNat

/-! ## Contents of extended names -/

/-- The document of a collection that a collection's name and an identity point to. -/
def pointerOfJson? (json : Json) : Option Value := do
  let record ← json.closedRecord? ["$ref", "$id"]
  let collection ← record.required? "$ref" Json.asString?
  let id ← record.required? "$id" fun json => do
    (← json.closedRecord? ["$oid"]).required? "$oid" fun json =>
      json.asString?.bind ObjectId.ofHex?
  return .pointer collection id

/-- The bytes of a string, or of an array of numbers. -/
def bytesOfJson? : Json → Option (List UInt8)
  | .string text => some text.toUTF8.toList
  | .bytes content _ => some content
  | json => json.listOf? byteOfJson?

/-- The bytes and subtype of a binary value. -/
def binaryOfJson? (json : Json) : Option Value := do
  let record ← json.closedRecord? ["base64", "subType"]
  let digits ← record.required? "base64" Json.asString?
  binaryOfTexts? digits (← record.required? "subType" Json.asString?)

/-- The digits of a universally unique identifier that stands in one of its written forms. -/
def uuidDigits? (text : String) : Option (List Char) :=
  let cs := text.toList
  if cs.length = 32 then some cs
  else
    let inner :=
      if cs.length = 38 && cs.head? == some '\x7b' && cs.getLast? == some '\x7d' then
        (cs.drop 1).take 36
      else if cs.length = 45 && (cs.take 9).map Char.toLower == "urn:uuid:".toList then cs.drop 9
      else cs
    if inner.length = 36 ∧ [8, 13, 18, 23].all (fun place => inner[place]? == some '-') then
      some (inner.take 8 ++ (inner.drop 9).take 4 ++ (inner.drop 14).take 4 ++
        (inner.drop 19).take 4 ++ inner.drop 24)
    else none

/-- The binary value of a universally unique identifier. -/
def uuidOfJson? (json : Json) : Option Value := do
  let digits ← json.asString?.bind uuidDigits?
  return .binary 4 (← Text.bytesOfHexDigits? digits)

/-- A timestamp. -/
def timestampOfJson? (json : Json) : Option Value := do
  let record ← json.closedRecord? ["t", "i"]
  let time ← record.required? "t" Json.asUInt32?
  let increment ← record.required? "i" Json.asUInt32?
  return .timestamp time increment

/-- A regular expression; its options are put in order. -/
def regexOfJson? (json : Json) : Option Value := do
  let record ← json.closedRecord? ["pattern", "options"]
  let pattern ← record.required? "pattern" Json.asString?
  return orderedRegex pattern (← record.required? "options" Json.asString?)

/-- The milliseconds of an instant: a text of digits under its own name, a calendar text, or an
    integer. -/
def millisOfJson? : Json → Option Int
  | .string text => Calendar.millisOfString? text
  | .number (.natural n) => if n.toNat ≤ maxInt64 then some n.toNat else none
  | .number (.negative n) => some n.toInt
  | json => do
      let record ← json.closedRecord? ["$numberLong"]
      record.required? "$numberLong" fun json => json.asString?.bind (Text.signed? 64)

/-- A value that is spelled by the number one. -/
def ofOne? (value : Value) (json : Json) : Option Value :=
  if byteOfJson? json = some 1 then some value else none

/-- A value that is spelled by the truth. -/
def ofTrue? (value : Value) (json : Json) : Option Value :=
  if json.asBool? = some true then some value else none

/-- The extended names that nothing may follow, with the readers of their contents. -/
def extensions : List (String × (Json → Option Value)) :=
  textSpellings.map (fun (name, read) => (name, fun json => json.asString?.bind read)) ++
  [("$numberDecimalBytes", fun json => (bytesOfJson? json).bind decimalOfBytes?),
    ("$binary", binaryOfJson?),
    ("$uuid", uuidOfJson?),
    ("$timestamp", timestampOfJson?),
    ("$regularExpression", regexOfJson?),
    ("$dbPointer", pointerOfJson?),
    ("$date", fun json => (millisOfJson? json).map fun n => .dateTime (Int64.ofInt n)),
    ("$maxKey", ofOne? .maxKey),
    ("$minKey", ofOne? .minKey),
    ("$undefined", ofTrue? .undefined)]

/-! ## Values -/

/-- What the members of an object spell up to some point. -/
inductive Spelling where
  | fields (fields : Document)
  /-- Code, which a scope may follow. -/
  | code (code : String)
  /-- A scope, which code has to follow. -/
  | scope (scope : Document)
  /-- A value that nothing may follow. -/
  | whole (value : Value)

/-- What is spelled with one more member, of which the content and its own value are given. -/
def Spelling.next? (name : String) (content : Json) (value : Option Value) :
    Spelling → Option Spelling
  | .fields doc =>
      if name = codeName then content.asString?.map .code
      else if name = scopeName then (value.bind asDocument?).map .scope
      else
        match extensions.lookup name with
        | some read => (read content).map .whole
        | none => value.map fun value => .fields (doc.insert name value)
  | .code text =>
      if name = scopeName then
        (value.bind asDocument?).map fun doc => .whole (.scopedJavascript text doc)
      else none
  | .scope doc =>
      if name = codeName then
        content.asString?.map fun text => .whole (.scopedJavascript text doc)
      else none
  | .whole _ => none

/-- The value that is spelled where no more members follow. -/
def Spelling.value? : Spelling → Option Value
  | .fields doc => some (.document doc)
  | .code text => some (.javascript text)
  | .scope _ => none
  | .whole value => some value

mutual

/-- The value that a JSON value stands for. -/
def ofJson? : Json → Option Value
  | .null => some .null
  | .bool value => some (.boolean value)
  | .number (.natural n) => ofNatural? n.toNat
  | .number (.negative n) => some (.int64 n)
  | .number (.real x) => some (.double x)
  | .string text => some (.string text)
  | .array items => (itemsOfJson? items).map .array
  | .object members => membersOfJson? (.fields []) members
  | .bytes _ _ | .unreadable => none
termination_by structural a => a

/-- The values of array items. -/
def itemsOfJson? : List Json → Option (List Value)
  | [] => some []
  | item :: rest => do
      let value ← ofJson? item
      let values ← itemsOfJson? rest
      return value :: values
termination_by structural a => a

/-- The value of an object's members behind what is spelled already. -/
def membersOfJson? (spelling : Spelling) : List (String × Json) → Option Value
  | [] => spelling.value?
  | (name, content) :: rest => do
      membersOfJson? (← spelling.next? name content (ofJson? content)) rest
termination_by structural a => a

end

end Value

/-- The document that a JSON object stands for. -/
def Document.ofJson? : Json → Option Document
  | .object members => (Value.membersOfJson? (.fields []) members).bind Value.asDocument?
  | _ => none

end DocQuery
