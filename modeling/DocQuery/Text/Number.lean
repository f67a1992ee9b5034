/-!
# Texts of integers

Integers are read from ASCII digits behind an optional sign; nothing else may stand around them.
-/

namespace DocQuery

namespace Text

/-- The number that decimal digits stand for; there has to be one at least. -/
def naturalOfDigits? (digits : List Char) : Option Nat :=
  if digits ≠ [] ∧ digits.all Char.isDigit then
    some (digits.foldl (fun value c => 10 * value + (c.toNat - '0'.toNat)) 0)
  else none

/-- The number of digits behind an optional plus sign. -/
def unsignedOfChars? : List Char → Option Nat
  | '+' :: rest => naturalOfDigits? rest
  | cs => naturalOfDigits? cs

/-- The number up to a largest one that a text stands for. -/
def unsigned? (largest : Nat) (s : String) : Option Nat := do
  let n ← unsignedOfChars? s.toList
  if n ≤ largest then some n else none

/-- The integer of digits behind an optional sign. -/
def integerOfChars? : List Char → Option Int
  | '-' :: rest => (naturalOfDigits? rest).map fun n => -(n : Int)
  | cs => (unsignedOfChars? cs).map fun n => (n : Int)

/-- The integer of a number of bits in two's complement that a text stands for. -/
def signed? (bits : Nat) (s : String) : Option Int := do
  let n ← integerOfChars? s.toList
  let bound := Nat.pow 2 (bits - 1)
  if -(bound : Int) ≤ n ∧ n < bound then some n else none

end Text

end DocQuery
