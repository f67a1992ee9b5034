import DocQuery.Value

/-!
# Sums of values

Integer totals stay within 64 signed bits by saturation.  Doubles are added in binary64.
-/

namespace DocQuery

/-- An integer kept within 64 signed bits. -/
def saturate (n : Int) : Int := max Int64.minValue.toInt (min Int64.maxValue.toInt n)

/-- An integer as a 64-bit value. -/
def Value.ofInt64 (n : Int) : Value := .int64 (Int64.ofInt n)

/-- An integer as a 32-bit value where it fits, and as a 64-bit value elsewhere. -/
def Value.ofIntNarrow (n : Int) : Value :=
  if Int32.minValue.toInt ≤ n ∧ n ≤ Int32.maxValue.toInt then .int32 (Int32.ofInt n)
  else Value.ofInt64 n

/-- The running total of a sum: the integers, whether one of them was a 64-bit value, and the
    doubles if there are any. -/
structure Total where
  integers : Int
  wide : Bool
  doubles : Option Binary64

namespace Total

/-- The total of nothing. -/
def zero : Total := ⟨0, false, none⟩

/-- The total with one more value; what is no integer or double does not count. -/
def add (total : Total) : Value → Total
  | .int32 n => { total with integers := saturate (total.integers + n.toInt) }
  | .int64 n => { total with integers := saturate (total.integers + n.toInt), wide := true }
  | .double x => { total with doubles := some ((total.doubles.getD (.zero false)).add x) }
  | _ => total

/-- The value of a total: a double if there are doubles, else an integer as narrow as its parts
    allow. -/
def value (total : Total) : Value :=
  match total.doubles with
  | some x => .double (x.add (.ofInt total.integers))
  | none => if total.wide then Value.ofInt64 total.integers else Value.ofIntNarrow total.integers

end Total

/-- The sum of the numbers among values. -/
def sumValues (values : List Value) : Value := (values.foldl Total.add .zero).value

/-- The mean of the numbers among values, or null without any. -/
def averageValues (values : List Value) : Value :=
  let numbers := values.filterMap Value.asDouble?
  if numbers.isEmpty then .null
  else .double ((numbers.foldl Binary64.add (.zero true)).div (.ofInt numbers.length))

/-- The sum of a stored number and an increment: 32 bits wide where both are and the sum fits, 64
    bits wide for other integers, and a double where one is a double.  Integers of unequal or double
    width are read as binary64 numbers first. -/
def incremented? (current amount : Value) : Option Value :=
  match current, amount with
  | .int32 a, .int32 b => some (Value.ofIntNarrow (a.toInt + b.toInt))
  | a, b =>
      match a.asDouble?, b.asDouble? with
      | some x, some y =>
          match a, b with
          | .double _, _ | _, .double _ => some (.double (x.add y))
          | _, _ => some (Value.ofInt64 (saturate (x.toInt64 + y.toInt64)))
      | _, _ => none

end DocQuery
