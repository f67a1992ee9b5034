import DocQuery.Text.Hex

/-!
# Identities

A document is identified by twelve bytes, which are written as 24 hexadecimal digits.
-/

namespace DocQuery

/-- A twelve-byte identity, as the number that its bytes spell. -/
structure ObjectId where
  value : BitVec 96
deriving DecidableEq, Repr, Inhabited

namespace ObjectId

/-- The digits of an identity. -/
def hex (id : ObjectId) : String := String.ofList (Text.hexDigits 24 id.value.toNat)

/-- The identity of 24 digits. -/
def ofHex? (digits : String) : Option ObjectId :=
  if digits.length = 24 then (Text.hexNat? digits.toList).map fun n => ⟨BitVec.ofNat 96 n⟩
  else none

end ObjectId

end DocQuery
