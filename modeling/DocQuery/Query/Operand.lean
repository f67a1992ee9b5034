import DocQuery.Query.Custom
import DocQuery.Query.Key

/-!
# Operands

The values that a query carries, before they are encoded: bound scalars, trees of arrays and
dictionaries, enumeration cases, and the mark for a value that the store assigns.
-/

namespace DocQuery

/-- A bound value. -/
inductive Bind where
  /-- A value that encodes to itself, but for documents in it that spell values. -/
  | value (value : Value)
  /-- An unsigned 64-bit integer, which the store's integers may be too small for. -/
  | unsigned (n : UInt64)
  /-- A universally unique identifier, which has a binary and a readable form. -/
  | uuid (id : BitVec 128)

/-- A value of a query. -/
inductive Operand where
  | bind (bound : Bind)
  | null
  | array (items : List Operand)
  | dictionary (entries : List (Key × Operand))
  | enumCase (name : String)
  /-- The mark for a value that the store assigns. -/
  | storeDefault
  | custom (node : Custom)

namespace Bind

/-- Whether a bound value encodes to null. -/
def isNil : Bind → Bool
  | .value v => v.isNull
  | _ => false

end Bind

namespace Operand

/-- Null, or a bound value that encodes to null. -/
def isNil : Operand → Bool
  | .null => true
  | .bind bound => bound.isNil
  | _ => false

/-- Whether an operand is the mark for a value that the store assigns. -/
def isStoreDefault : Operand → Bool
  | .storeDefault => true
  | _ => false

end Operand

end DocQuery
