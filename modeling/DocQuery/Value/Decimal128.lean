import DocQuery.Value

/-!
# Decimal numbers

A decimal number is a sign, a coefficient of at most 34 digits and a power of ten.  The encoding
keeps the coefficient as a binary integer below the exponent; a coefficient that is too large reads
as zero.
-/

namespace DocQuery

namespace Decimal128

/-- What an encoding stands for, up to the sign. -/
inductive Magnitude where
  | nan
  | infinity
  | finite (coefficient : Nat) (exponent : Int)
deriving DecidableEq, Repr

/-- The exponent field of zero powers of ten. -/
def exponentBias : Int := 6176

/-- The largest exponent. -/
def maxExponent : Int := 6111

/-- The largest number of digits of a coefficient. -/
def maxDigits : Nat := 34

/-- Whether the sign bit is set. -/
def isNegative (d : Decimal128) : Bool := decide (Nat.pow 2 127 ≤ d.word.toNat)

/-- The magnitude of an encoding. -/
def magnitude (d : Decimal128) : Magnitude :=
  let n := d.word.toNat % Nat.pow 2 127
  let top := n / Nat.pow 2 122
  if top = 31 then .nan
  else if top = 30 then .infinity
  else if 24 ≤ top then .finite 0 ((n / Nat.pow 2 111 % Nat.pow 2 14 : Nat) - exponentBias)
  else
    let coefficient := n % Nat.pow 2 113
    .finite (if coefficient < Nat.pow 10 maxDigits then coefficient else 0)
      ((n / Nat.pow 2 113 : Nat) - exponentBias)

/-- The encoding of a finite number within the limits. -/
def ofFinite (negative : Bool) (coefficient : Nat) (exponent : Int) : Decimal128 :=
  ⟨BitVec.ofNat 128
    ((if negative then Nat.pow 2 127 else 0) + (exponent + exponentBias).toNat * Nat.pow 2 113 +
      coefficient)⟩

/-- The encoding of an infinity. -/
def infinity (negative : Bool) : Decimal128 :=
  ⟨BitVec.ofNat 128 ((if negative then Nat.pow 2 127 else 0) + 30 * Nat.pow 2 122)⟩

/-- The encoding of no number. -/
def nan (negative : Bool) : Decimal128 :=
  ⟨BitVec.ofNat 128 ((if negative then Nat.pow 2 127 else 0) + 31 * Nat.pow 2 122)⟩

/-- The number in its usual encoding: what is no number has no sign, and nothing is left in the bits
    that do not count. -/
def canonical (d : Decimal128) : Decimal128 :=
  match d.magnitude with
  | .nan => nan false
  | .infinity => infinity d.isNegative
  | .finite coefficient exponent => ofFinite d.isNegative coefficient exponent

/-- The number of sixteen bytes, least significant first. -/
def ofBytes (bytes : List UInt8) : Decimal128 :=
  ⟨BitVec.ofNat 128 (bytes.foldr (fun byte value => 256 * value + byte.toNat) 0)⟩

/-- The sixteen bytes, least significant first. -/
def bytes (d : Decimal128) : List UInt8 :=
  (List.range 16).map fun place => UInt8.ofNat (d.word.toNat / Nat.pow 256 place)

/-- `count` zeros. -/
def zeros (count : Nat) : String := String.ofList (List.replicate count '0')

/-- The text of a coefficient and an exponent: positional where no zeros have to be added behind and
    at most five in front, scientific elsewhere. -/
def finiteText (coefficient : Nat) (exponent : Int) : String :=
  let digits := toString coefficient
  let adjusted := exponent + digits.length - 1
  if exponent ≤ 0 ∧ -6 ≤ adjusted then
    if exponent = 0 then digits
    else
      let places := exponent.natAbs
      if digits.length ≤ places then "0." ++ zeros (places - digits.length) ++ digits
      else
        String.ofList (digits.toList.take (digits.length - places)) ++ "." ++
          String.ofList (digits.toList.drop (digits.length - places))
  else
    let rest := String.ofList (digits.toList.drop 1)
    String.ofList (digits.toList.take 1) ++ (if rest = "" then "" else "." ++ rest) ++ "E" ++
      (if 0 < adjusted then "+" else "") ++ toString adjusted

/-- The text of a decimal number.  What is no number has no sign either. -/
def text (d : Decimal128) : String :=
  let sign := if d.isNegative then "-" else ""
  match d.magnitude with
  | .nan => "NaN"
  | .infinity => sign ++ "Infinity"
  | .finite coefficient exponent => sign ++ finiteText coefficient exponent

end Decimal128

end DocQuery
