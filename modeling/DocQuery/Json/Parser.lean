import DocQuery.Json
import DocQuery.Text.Hex

/-!
# Reading JSON texts

The grammar is the strict one: no comments, no trailing commas, nothing after the value.  Texts that
keep to the grammar but hold a number beyond the binary64 range or half a surrogate pair parse, with
a part that cannot be read, so that a reader that has no use for the part may still pass over it.
Bare control characters are kept for a reader that takes the bytes of a string.
-/

namespace DocQuery

namespace Json

/-- The characters after the blanks of the grammar. -/
def skipBlanks : List Char → List Char
  | [] => []
  | c :: rest =>
      if c = ' ' ∨ c = '\n' ∨ c = '\t' ∨ c = '\r' then skipBlanks rest else c :: rest

/-! ## Strings -/

/-- What stands between the quotes of a string. -/
structure StringContent where
  /-- The numbers of the characters, and of the UTF-16 units that are written by their digits. -/
  units : List Nat
  /-- Whether control characters stand there without an escape. -/
  hasControls : Bool

/-- The character of an escape by one letter. -/
def shortEscape? (c : Char) : Option Char :=
  if c = '"' ∨ c = '\\' ∨ c = '/' then some c
  else if c = 'b' then some '\x08'
  else if c = 'f' then some '\x0c'
  else if c = 'n' then some '\n'
  else if c = 'r' then some '\r'
  else if c = 't' then some '\t'
  else none

/-- The content up to the closing quote, and what follows it. -/
def parseStringContent : List Char → Option (StringContent × List Char)
  | [] => none
  | '"' :: rest => some (⟨[], false⟩, rest)
  | '\\' :: 'u' :: a :: b :: c :: d :: rest => do
      let unit ← Text.hexNat? [a, b, c, d]
      let (content, rest) ← parseStringContent rest
      return (⟨unit :: content.units, content.hasControls⟩, rest)
  | '\\' :: c :: rest => do
      let escaped ← shortEscape? c
      let (content, rest) ← parseStringContent rest
      return (⟨escaped.toNat :: content.units, content.hasControls⟩, rest)
  | c :: rest => do
      let (content, rest) ← parseStringContent rest
      return (⟨c.toNat :: content.units, content.hasControls || decide (c.toNat < 0x20)⟩, rest)

/-- The code points of characters and UTF-16 units: a high surrogate and a low one behind it are one
    of them, and half a pair stays as it is. -/
def joinSurrogates : List Nat → List Nat
  | high :: low :: rest =>
      if 0xd800 ≤ high ∧ high < 0xdc00 ∧ 0xdc00 ≤ low ∧ low < 0xe000 then
        (0x10000 + (high - 0xd800) * 0x400 + (low - 0xdc00)) :: joinSurrogates rest
      else high :: joinSurrogates (low :: rest)
  | units => units

/-- The character of a code point that is no surrogate. -/
def charOfCode? (code : Nat) : Option Char :=
  if code.isValidChar then some (Char.ofNat code) else none

/-- The bytes of a code point in UTF-8, surrogates included. -/
def bytesOfCode (code : Nat) : List UInt8 :=
  let tail (place : Nat) := 0x80 + code / Nat.pow 64 place % 64
  let codes :=
    if code < 0x80 then [code]
    else if code < 0x800 then [0xc0 + code / 64, tail 0]
    else if code < 0x10000 then [0xe0 + code / 4096, tail 1, tail 0]
    else [0xf0 + code / 262144, tail 2, tail 1, tail 0]
  codes.map UInt8.ofNat

/-- The string of a content: a text, or bytes where it has half a surrogate pair or a bare control
    character. -/
def StringContent.value (content : StringContent) : Json :=
  let codes := joinSurrogates content.units
  let raw := Json.bytes (codes.flatMap bytesOfCode) !content.hasControls
  if content.hasControls then raw
  else ((codes.mapM charOfCode?).map fun cs => .string (.ofList cs)).getD raw

/-- The string that starts behind an opening quote. -/
def parseString (cs : List Char) : Option (Json × List Char) := do
  let (content, rest) ← parseStringContent cs
  return (content.value, rest)

/-! ## Numbers -/

/-- The value of a list of decimal digits. -/
def digitsValue (digits : List Char) : Nat :=
  digits.foldl (fun value c => 10 * value + (c.toNat - '0'.toNat)) 0

/-- The largest significand. -/
def maxSignificand : Nat := UInt64.size - 1

/-- A significand extended by digits as long as it fits 64 bits, and the number of digits that did
    not make it in. -/
def extendSignificand (significand : Nat) : List Char → Nat × Nat
  | [] => (significand, 0)
  | c :: rest =>
      let next := 10 * significand + (c.toNat - '0'.toNat)
      if next ≤ maxSignificand then extendSignificand next rest else (significand, rest.length + 1)

/-- The binary64 power of ten. -/
def powerOfTen (exponent : Nat) : Binary64 := .ofDecimal false 1 exponent

/-- A binary64 number times a power of ten, by one multiplication or division; powers below
    `10 ^ -308` take a division by `10 ^ 308` for each 308 places first.  `none` where the result is
    out of range. -/
def scale : Nat → Binary64 → Int → Option Binary64
  | steps, x, exponent =>
      if exponent.natAbs ≤ 308 then
        if 0 ≤ exponent then
          let y := x.mul (powerOfTen exponent.natAbs)
          if y.isInfinite then none else some y
        else some (x.div (powerOfTen exponent.natAbs))
      else if x.isZero then some x
      else if 0 ≤ exponent then none
      else
        match steps with
        | 0 => some (.zero false)
        | steps + 1 => scale steps (x.div (powerOfTen 308)) (exponent + 308)

/-- The number of times that `scale` can divide a 64-bit integer by `10 ^ 308` before it is zero. -/
def scaleSteps : Nat := 3

/-- The parts of a number text. -/
structure NumberText where
  negative : Bool
  whole : List Char
  fraction : List Char
  exponent : Option (Bool × List Char)

/-- The largest exponent that is taken at its value. -/
def maxExponent : Nat := Nat.pow 2 31 - 1

/-- The real number that a text stands for, if it is in range.  The significand is cut where it
    would exceed 64 bits, so a text of more than 19 digits may be off by an ulp. -/
def NumberText.real? (text : NumberText) : Option Binary64 := do
  let (whole, dropped) := extendSignificand 0 text.whole
  let (significand, cut) := extendSignificand whole text.fraction
  let shift : Int := dropped - ((text.fraction.length - cut : Nat) : Int)
  let size ← match text.exponent with
    | none => scale scaleSteps (.ofInt significand) shift
    | some (negative, digits) =>
        let exponent := digitsValue digits
        if maxExponent < exponent then
          if significand = 0 ∨ negative then some (.zero false) else none
        else
          scale scaleSteps (.ofInt significand)
            (if negative then shift - exponent else shift + exponent)
  return if text.negative then .ofMagnitude true size.magnitude else size

/-- The value of a number text.  An integer without fraction and exponent is exact where it fits 64
    bits; a negated zero is real. -/
def NumberText.value (text : NumberText) : Json :=
  let real := match text.real? with
    | some x => .number (.real x)
    | none => .unreadable
  if text.fraction.isEmpty && text.exponent.isNone then
    let n := digitsValue text.whole
    if text.negative then
      if 0 < n ∧ n ≤ Nat.pow 2 63 then .number (.negative (Int64.ofInt (-(n : Int)))) else real
    else if n ≤ maxSignificand then .number (.natural (UInt64.ofNat n))
    else real
  else real

/-- The digits at the front, and what follows them. -/
def spanDigits (cs : List Char) : List Char × List Char := cs.span Char.isDigit

/-- The number at the front. -/
def parseNumber (cs : List Char) : Option (NumberText × List Char) := do
  let (negative, cs) := match cs with
    | '-' :: rest => (true, rest)
    | _ => (false, cs)
  let (whole, cs) := spanDigits cs
  guard (whole ≠ [] ∧ (whole.length = 1 ∨ whole.head? ≠ some '0'))
  let (fraction, cs) ← match cs with
    | '.' :: rest =>
        let (fraction, rest) := spanDigits rest
        if fraction.isEmpty then none else some (fraction, rest)
    | _ => some ([], cs)
  let (exponent, cs) ← match cs with
    | e :: rest =>
        if e = 'e' ∨ e = 'E' then
          let (negative, rest) := match rest with
            | '+' :: rest => (false, rest)
            | '-' :: rest => (true, rest)
            | _ => (false, rest)
          let (digits, rest) := spanDigits rest
          if digits.isEmpty then none else some (some (negative, digits), rest)
        else some (none, cs)
    | [] => some (none, cs)
  return ({ negative, whole, fraction, exponent }, cs)

/-! ## Values -/

/-- A container at a depth, which cannot be read where it is nested too deeply. -/
def atDepth? (depth : Nat) (value : Json) : Option Json :=
  if depth ≤ maxDepth then some value
  else if value.isPassable then some .unreadable
  else none

/-- The name that a string gives to a member, if it is a text. -/
def nameOf? : Json → Option (Option String)
  | .string name => some (some name)
  | json => if json.isPassable then some none else none

/-- The object of members, which cannot be read where one has no name. -/
def ofMembers? (members : List (Option String × Json)) : Option Json :=
  match members.mapM fun (name, value) => name.map (·, value) with
  | some members => some (.object members)
  | none => if members.all fun member => member.2.isPassable then some .unreadable else none

mutual

/-- The value at the front, inside `depth` brackets. -/
def parseValue : Nat → Nat → List Char → Option (Json × List Char)
  | 0, _, _ => none
  | fuel + 1, depth, cs =>
      match skipBlanks cs with
      | 'n' :: 'u' :: 'l' :: 'l' :: rest => some (.null, rest)
      | 't' :: 'r' :: 'u' :: 'e' :: rest => some (.bool true, rest)
      | 'f' :: 'a' :: 'l' :: 's' :: 'e' :: rest => some (.bool false, rest)
      | '"' :: rest => parseString rest
      | '[' :: rest => do
          let (items, rest) ← match skipBlanks rest with
            | ']' :: rest => some ([], rest)
            | _ => parseItems fuel (depth + 1) rest
          return (← atDepth? (depth + 1) (.array items), rest)
      | '\x7b' :: rest => do
          let (members, rest) ← match skipBlanks rest with
            | '\x7d' :: rest => some ([], rest)
            | _ => parseMembers fuel (depth + 1) rest
          return (← atDepth? (depth + 1) (← ofMembers? members), rest)
      | cs => do
          let (text, rest) ← parseNumber cs
          return (text.value, rest)

/-- One or more items up to the closing bracket. -/
def parseItems : Nat → Nat → List Char → Option (List Json × List Char)
  | 0, _, _ => none
  | fuel + 1, depth, cs => do
      let (item, rest) ← parseValue fuel depth cs
      match skipBlanks rest with
      | ']' :: rest => return ([item], rest)
      | ',' :: rest =>
          let (items, rest) ← parseItems fuel depth rest
          return (item :: items, rest)
      | _ => none

/-- One or more members up to the closing brace. -/
def parseMembers : Nat → Nat → List Char → Option (List (Option String × Json) × List Char)
  | 0, _, _ => none
  | fuel + 1, depth, cs =>
      match skipBlanks cs with
      | '"' :: rest => do
          let (name, rest) ← parseString rest
          let name ← nameOf? name
          match skipBlanks rest with
          | ':' :: rest =>
              let (value, rest) ← parseValue fuel depth rest
              match skipBlanks rest with
              | '\x7d' :: rest => return ([(name, value)], rest)
              | ',' :: rest =>
                  let (members, rest) ← parseMembers fuel depth rest
                  return ((name, value) :: members, rest)
              | _ => none
          | _ => none
      | _ => none

end

/-- The value that a whole text stands for. -/
def parse? (text : String) : Option Json := do
  let cs := text.toList
  let (value, rest) ← parseValue (2 * cs.length + 2) 0 cs
  guard (skipBlanks rest = [])
  return value

end Json

end DocQuery
