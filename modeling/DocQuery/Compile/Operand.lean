import DocQuery.Compile.Error
import DocQuery.Value.Extended

/-!
# Encoding of operands

Operands become stored values.  The mark for a value that the store assigns is accepted in one place
only: under the identity key of an input row, which is then left out of the document.
-/

namespace DocQuery

/-- How bound values are encoded. -/
structure Encoder where
  /-- Whether values take their readable form: identifiers become texts, and decimal numbers pass
      through theirs. -/
  humanReadable : Bool
deriving DecidableEq, Repr

/-- The usual way to encode bound values. -/
def Encoder.standard : Encoder := ⟨false⟩

/-- The bytes of an identifier, most significant first. -/
def uuidBytes (id : BitVec 128) : List UInt8 :=
  (List.range 16).reverse.map fun place => UInt8.ofNat (id.toNat / Nat.pow 256 place)

/-- The readable form of an identifier: its digits in groups of 8, 4, 4, 4 and 12. -/
def uuidText (id : BitVec 128) : String :=
  let digits := Text.hexDigits 32 id.toNat
  let group (start length : Nat) := String.ofList ((digits.drop start).take length)
  "-".intercalate [group 0 8, group 8 4, group 12 4, group 16 4, group 20 12]

/-- The value of a bound value, with the values in it that its documents spell. -/
def Bind.encode (encoder : Encoder) : Bind → Compiled Value
  | .value v => .ok (v.spelled encoder.humanReadable)
  | .unsigned n =>
      if n.toNat < Nat.pow 2 63 then .ok (.int64 (Int64.ofInt n.toNat))
      else .error (.unsignedTooLarge n)
  | .uuid id =>
      if encoder.humanReadable then .ok (.string (uuidText id)) else .ok (.binary 0 (uuidBytes id))

namespace Operand

mutual

/-- The value of an operand. -/
def encode (encoder : Encoder) : Operand → Compiled Value
  | .bind bound => bound.encode encoder
  | .null => .ok .null
  | .array items => do return .array (← encodeItems encoder items)
  | .dictionary entries => do
      return .document (Document.ofList (← encodeEntries encoder entries))
  | .enumCase name => .ok (.string name)
  | .storeDefault => .error .misplacedDefault
  | .custom node => node.render
termination_by structural a => a

/-- The values of operands; the first that has none decides. -/
def encodeItems (encoder : Encoder) : List Operand → Compiled (List Value)
  | [] => .ok []
  | item :: rest => do
      let value ← encode encoder item
      let values ← encodeItems encoder rest
      return value :: values
termination_by structural a => a

/-- The named values of a dictionary; the first that has none decides. -/
def encodeEntries (encoder : Encoder) :
    List (Key × Operand) → Compiled (List (String × Value))
  | [] => .ok []
  | (key, operand) :: rest => do
      let value ← encode encoder operand
      let fields ← encodeEntries encoder rest
      return (key.storageName, value) :: fields
termination_by structural a => a

end

/-- Whether an entry leaves the identity to the store. -/
def isDefaultIdentity (entry : Key × Operand) : Bool :=
  entry.1 = .id && entry.2.isStoreDefault

/-- The document of an input row. -/
def encodeRow (encoder : Encoder) : Operand → Compiled Document
  | .dictionary entries => do
      let kept := entries.filter fun entry => !isDefaultIdentity entry
      return Document.ofList (← encodeEntries encoder kept)
  | _ => .error .rowNotDictionary

end Operand

end DocQuery
