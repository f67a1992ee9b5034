/-!
# Binary64 numbers

An IEEE 754 binary64 number is its 64 bits.  The order, the conversions and the arithmetic below are
exact integer computations followed by one rounding, `roundRatio`, to the nearest representable
magnitude (a tie goes to the even one).  All results that are not a number are the one `nan`.
-/

namespace DocQuery

/-- A binary64 number, given by its encoding. -/
structure Binary64 where
  bits : UInt64
deriving DecidableEq, Repr

namespace Binary64

/-- The encoding of positive infinity; larger magnitudes encode no number. -/
def infinityMagnitude : Nat := 0x7ff0000000000000

/-- The encoding without its sign bit. -/
def magnitude (x : Binary64) : Nat := x.bits.toNat % Nat.pow 2 63

/-- Whether the sign bit is set. -/
def isNegative (x : Binary64) : Bool := decide (Nat.pow 2 63 ≤ x.bits.toNat)

/-- Whether the encoding stands for no number. -/
def isNaN (x : Binary64) : Bool := decide (infinityMagnitude < x.magnitude)

/-- Whether the encoding is one of the two infinities. -/
def isInfinite (x : Binary64) : Bool := decide (x.magnitude = infinityMagnitude)

/-- Whether the encoding is one of the two zeros. -/
def isZero (x : Binary64) : Bool := decide (x.magnitude = 0)

/-- The number of a given sign and magnitude; magnitudes past the largest number are infinite. -/
def ofMagnitude (negative : Bool) (magnitude : Nat) : Binary64 :=
  ⟨UInt64.ofNat (min magnitude infinityMagnitude + if negative then Nat.pow 2 63 else 0)⟩

/-- The result of an operation that has no numeric value. -/
def nan : Binary64 := ⟨0x7ff8000000000000⟩

/-- The infinity of a given sign. -/
def infinity (negative : Bool) : Binary64 := ofMagnitude negative infinityMagnitude

/-- The zero of a given sign. -/
def zero (negative : Bool) : Binary64 := ofMagnitude negative 0

/-- The order key of a number: magnitudes are ordered as the numbers that they encode, and the two
    zeros share the key `0`. -/
def key (x : Binary64) : Int := if x.isNegative then -(x.magnitude : Int) else x.magnitude

/-- The IEEE order; an operand that is not a number is unordered. -/
def compare? (x y : Binary64) : Option Ordering :=
  if x.isNaN || y.isNaN then none else some (compare x.key y.key)

/-- IEEE equality: no encoding without a value equals anything, and the zeros are equal. -/
def equal (x y : Binary64) : Bool := x.compare? y == some .eq

/-! ## Rounding -/

/-- The integer nearest to `num / den`; a half goes to the even neighbour. -/
def nearestEven (num den : Nat) : Nat :=
  let floor := num / den
  let rest := num % den
  if den < 2 * rest ∨ (2 * rest = den ∧ floor % 2 = 1) then floor + 1 else floor

/-- The magnitude of `significand * 2 ^ exponent`, for a significand below `2 ^ 53` that has its
    top bit unless the exponent is the least one, `-1074`. -/
def assemble (exponent : Int) (significand : Nat) : Nat :=
  (exponent + 1074).toNat * Nat.pow 2 52 + significand

/-- The magnitude nearest to `num / den`.  The exponent is chosen so that the integer quotient has
    53 bits, or is the least exponent. -/
def roundRatio (num den : Nat) : Nat :=
  if num = 0 then 0
  else
    let exponent := max (-1074) ((Nat.log2 num : Int) - Nat.log2 den - 53)
    let num := num * Nat.pow 2 (-exponent).toNat
    let den := den * Nat.pow 2 exponent.toNat
    if num / den < Nat.pow 2 53 then assemble exponent (nearestEven num den)
    else assemble (exponent + 1) (nearestEven num (2 * den))

/-- The number nearest to `num / den`, with a given sign. -/
def ofRatio (negative : Bool) (num den : Nat) : Binary64 :=
  ofMagnitude negative (roundRatio num den)

/-- The number nearest to `significand * 2 ^ exponent`, with a given sign. -/
def ofScaled (negative : Bool) (significand : Nat) (exponent : Int) : Binary64 :=
  ofRatio negative (significand * Nat.pow 2 exponent.toNat) (Nat.pow 2 (-exponent).toNat)

/-- The number nearest to an integer. -/
def ofInt (n : Int) : Binary64 := ofRatio (decide (n < 0)) n.natAbs 1

/-- The number of decimal digits of a positive integer. -/
def digitCount (n : Nat) : Nat := (Nat.toDigits 10 n).length

/-- The number nearest to `digits * 10 ^ exponent`.  Decimal points outside `-330 … 310` are decided
    without the power: they are beyond half of the least or above the largest number. -/
def ofDecimal (negative : Bool) (digits : Nat) (exponent : Int) : Binary64 :=
  let point := exponent + digitCount digits
  if digits = 0 then zero negative
  else if 310 < point then infinity negative
  else if point < -330 then zero negative
  else ofRatio negative (digits * Nat.pow 10 exponent.toNat) (Nat.pow 10 (-exponent).toNat)

/-! ## Decoding -/

/-- The integer significand of a finite number: `significand * 2 ^ exponent` is its magnitude. -/
def significand (x : Binary64) : Nat :=
  let fraction := x.magnitude % Nat.pow 2 52
  if x.magnitude < Nat.pow 2 52 then fraction else fraction + Nat.pow 2 52

/-- The binary exponent that belongs to `significand`. -/
def exponent (x : Binary64) : Int :=
  if x.magnitude < Nat.pow 2 52 then -1074 else ((x.magnitude / Nat.pow 2 52 : Nat) : Int) - 1075

/-- The significand with the number's sign. -/
def signedSignificand (x : Binary64) : Int :=
  if x.isNegative then -(x.significand : Int) else x.significand

/-- The number cut to an integer and kept within 64 signed bits; `0` where there is no number. -/
def toInt64 (x : Binary64) : Int :=
  if x.isNaN then 0
  else if x.isInfinite then if x.isNegative then Int64.minValue.toInt else Int64.maxValue.toInt
  else
    let size : Int :=
      (x.significand * Nat.pow 2 x.exponent.toNat / Nat.pow 2 (-x.exponent).toNat : Nat)
    max Int64.minValue.toInt
      (min Int64.maxValue.toInt (if x.isNegative then -size else size))

/-! ## Arithmetic -/

/-- The sum, rounded once.  A sum of zero is negative only where both operands are. -/
def add (x y : Binary64) : Binary64 :=
  if x.isNaN || y.isNaN then nan
  else if x.isInfinite then
    if y.isInfinite && x.isNegative != y.isNegative then nan else infinity x.isNegative
  else if y.isInfinite then infinity y.isNegative
  else
    let least := min x.exponent y.exponent
    let sum := x.signedSignificand * (Nat.pow 2 (x.exponent - least).toNat : Int)
      + y.signedSignificand * (Nat.pow 2 (y.exponent - least).toNat : Int)
    if sum = 0 then zero (x.isNegative && y.isNegative)
    else ofScaled (decide (sum < 0)) sum.natAbs least

/-- The product, rounded once. -/
def mul (x y : Binary64) : Binary64 :=
  let negative := x.isNegative != y.isNegative
  if x.isNaN || y.isNaN then nan
  else if x.isInfinite || y.isInfinite then
    if x.isZero || y.isZero then nan else infinity negative
  else ofScaled negative (x.significand * y.significand) (x.exponent + y.exponent)

/-- The quotient, rounded once. -/
def div (x y : Binary64) : Binary64 :=
  let negative := x.isNegative != y.isNegative
  if x.isNaN || y.isNaN then nan
  else if x.isInfinite then if y.isInfinite then nan else infinity negative
  else if y.isInfinite then zero negative
  else if y.isZero then if x.isZero then nan else infinity negative
  else
    let shift := x.exponent - y.exponent
    ofRatio negative (x.significand * Nat.pow 2 shift.toNat)
      (y.significand * Nat.pow 2 (-shift).toNat)

end Binary64

end DocQuery
