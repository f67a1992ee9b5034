import DocQuery.Binary64
import DocQuery.Text.Number

/-!
# Reading binary64 numbers

A number text has digits before or after a point and an optional exponent; it stands for the nearest
binary64 number.  Infinities and the value that is no number are written as words, in any case.
-/

namespace DocQuery

namespace Binary64

/-- The exponent that follows a mark, or zero where nothing follows. -/
def exponentOfChars? : List Char → Option Int
  | [] => some 0
  | mark :: rest => if mark = 'e' ∨ mark = 'E' then Text.integerOfChars? rest else none

/-- The number of an unsigned number text, with a given sign. -/
def ofDigits? (negative : Bool) (cs : List Char) : Option Binary64 := do
  let (whole, rest) := cs.span Char.isDigit
  let (fraction, rest) := match rest with
    | '.' :: rest => rest.span Char.isDigit
    | _ => ([], rest)
  let digits ← Text.naturalOfDigits? (whole ++ fraction)
  let exponent ← exponentOfChars? rest
  return ofDecimal negative digits (exponent - fraction.length)

/-- The number of an unsigned word or number text, with a given sign. -/
def ofUnsigned? (negative : Bool) (cs : List Char) : Option Binary64 :=
  let word := String.ofList (cs.map Char.toLower)
  if word = "inf" ∨ word = "infinity" then some (infinity negative)
  else if word = "nan" then some nan
  else ofDigits? negative cs

/-- The number that a text stands for. -/
def ofString? (s : String) : Option Binary64 :=
  match s.toList with
  | '-' :: rest => ofUnsigned? true rest
  | '+' :: rest => ofUnsigned? false rest
  | cs => ofUnsigned? false cs

end Binary64

end DocQuery
