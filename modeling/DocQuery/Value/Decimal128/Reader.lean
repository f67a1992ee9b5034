import DocQuery.Text.Number
import DocQuery.Value.Decimal128

/-!
# Reading decimal numbers

A number text is accepted where some decimal number has exactly its value: zeros may move between
the coefficient and the exponent, but no other digit may be lost.
-/

namespace DocQuery

namespace Decimal128

/-- The least exponent. -/
def minExponent : Int := -6176

/-- The encoding of no number that signals when it is used. -/
def signallingNan (negative : Bool) : Decimal128 :=
  ⟨BitVec.ofNat 128 ((if negative then Nat.pow 2 127 else 0) + 63 * Nat.pow 2 121)⟩

/-- The digits before a position, where all others are zeros. -/
def cutZeros? (count : Nat) (digits : List Char) : Option (List Char) :=
  if (digits.drop count).all (· = '0') then some (digits.take count) else none

/-- Digits without leading zeros, but at least one digit; no digits stand for zero. -/
def trimLeadingZeros (digits : List Char) : List Char :=
  let rest := digits.dropWhile (· = '0')
  if rest.isEmpty then ['0'] else rest

/-- The limits of an exponent as it is written, of all that is made of it on the way, and of what it
    is changed by. -/
def isExponent (exponent : Int) : Bool := decide (-32768 ≤ exponent ∧ exponent < 32768)

/-- Digits with at most as many places as a coefficient has, and their exponent. -/
def fitDigits? (digits : List Char) (exponent : Int) : Option (List Char × Int) :=
  if digits.length ≤ maxDigits then some (digits, exponent)
  else do
    let kept ← cutZeros? maxDigits digits
    let cut : Int := (digits.length - maxDigits : Nat)
    if isExponent cut ∧ isExponent (exponent + cut) then some (kept, exponent + cut) else none

/-- Digits whose exponent is not below the least one. -/
def raiseExponent? (digits : List Char) (exponent : Int) : Option (List Char × Int) :=
  if minExponent ≤ exponent then some (digits, exponent)
  else if digits = ['0'] then some (digits, minExponent)
  else
    let dropped := (minExponent - exponent).toNat
    if digits.length < dropped then none
    else (cutZeros? (digits.length - dropped) digits).map (·, minExponent)

/-- Digits whose exponent is not above the largest one. -/
def lowerExponent? (digits : List Char) (exponent : Int) : Option (List Char × Int) :=
  if exponent ≤ maxExponent then some (digits, exponent)
  else if digits = ['0'] then some (digits, maxExponent)
  else
    let added := (exponent - maxExponent).toNat
    if maxDigits < digits.length + added then none
    else some (digits ++ List.replicate added '0', maxExponent)

/-- The finite number of a text in lower case without its sign. -/
def finiteOfChars? (negative : Bool) (cs : List Char) : Option Decimal128 := do
  let (mantissa, rest) := cs.span (· ≠ 'e')
  let exponent ← match rest with
    | [] => some 0
    | _ :: written => Text.integerOfChars? written
  if isExponent exponent then
    let (whole, rest) := mantissa.span (· ≠ '.')
    let fraction := rest.drop 1
    let exponent := exponent - fraction.length
    if isExponent fraction.length ∧ isExponent exponent then
      let (digits, exponent) ← fitDigits? (trimLeadingZeros (whole ++ fraction)) exponent
      let (digits, exponent) ← raiseExponent? digits exponent
      let (digits, exponent) ← lowerExponent? digits exponent
      return ofFinite negative (← Text.unsignedOfChars? digits) exponent
    else none
  else none

/-- The number of a text without its sign. -/
def ofUnsigned? (negative : Bool) (cs : List Char) : Option Decimal128 :=
  let cs := cs.map Char.toLower
  let word := String.ofList cs
  if word = "nan" then some (nan negative)
  else if word = "snan" then some (signallingNan negative)
  else if word = "inf" ∨ word = "infinity" then some (infinity negative)
  else finiteOfChars? negative cs

/-- The number that a text stands for. -/
def ofString? (s : String) : Option Decimal128 :=
  match s.toList with
  | '-' :: rest => ofUnsigned? true rest
  | '+' :: rest => ofUnsigned? false rest
  | cs => ofUnsigned? false cs

end Decimal128

end DocQuery
