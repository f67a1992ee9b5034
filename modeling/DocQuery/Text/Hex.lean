/-!
# Hexadecimal texts

Bytes are written with two lower-case digits each and read in either case.
-/

namespace DocQuery

namespace Text

/-- The value of a hexadecimal digit. -/
def hexDigit? (c : Char) : Option Nat :=
  if '0' ≤ c ∧ c ≤ '9' then some (c.toNat - '0'.toNat)
  else if 'a' ≤ c ∧ c ≤ 'f' then some (c.toNat - 'a'.toNat + 10)
  else if 'A' ≤ c ∧ c ≤ 'F' then some (c.toNat - 'A'.toNat + 10)
  else none

/-- The number that hexadecimal digits stand for, most significant first. -/
def hexNat? (digits : List Char) : Option Nat :=
  digits.foldlM (fun value c => (hexDigit? c).map (16 * value + ·)) 0

/-- The last `width` hexadecimal digits of a number. -/
def hexDigits (width value : Nat) : List Char :=
  (List.range width).reverse.map fun place => Nat.digitChar (value / Nat.pow 16 place % 16)

/-- Two digits for each byte. -/
def hexOfBytes (bytes : List UInt8) : String :=
  String.ofList (bytes.flatMap fun byte => hexDigits 2 byte.toNat)

/-- The bytes that pairs of digits stand for. -/
def bytesOfHexDigits? : List Char → Option (List UInt8)
  | [] => some []
  | [_] => none
  | high :: low :: rest => do
      let h ← hexDigit? high
      let l ← hexDigit? low
      let bytes ← bytesOfHexDigits? rest
      return UInt8.ofNat (16 * h + l) :: bytes

/-- The bytes that a text of digit pairs stands for. -/
def bytesOfHex? (s : String) : Option (List UInt8) := bytesOfHexDigits? s.toList

end Text

end DocQuery
