import DocQuery.Binary64.Reader
import DocQuery.Calendar.Reader
import DocQuery.Text.Blank
import DocQuery.Text.Hex
import DocQuery.Toml

/-!
# Reading TOML texts

A text is read line by line into statements, which `TomlFields.ofStatements?` puts together.
-/

namespace DocQuery

namespace Toml

/-! ## Blanks and comments -/

/-- The characters after blanks within a line. -/
def skipSpaces (cs : List Char) : List Char := cs.dropWhile fun c => c = ' ' ∨ c = '\t'

/-- Whether a character may not stand in strings and comments. -/
def isControl (c : Char) : Bool := (c.toNat < 0x20 && c != '\t') || c.toNat == 0x7f

/-- The characters after a line break. -/
def lineBreak? : List Char → Option (List Char)
  | '\n' :: rest => some rest
  | '\r' :: '\n' :: rest => some rest
  | _ => none

/-- The characters after blanks, a comment and the end of the line. -/
def endLine? (cs : List Char) : Option (List Char) :=
  let rest := match skipSpaces cs with
    | '#' :: comment => comment.dropWhile fun c => !isControl c
    | rest => rest
  if rest.isEmpty then some [] else lineBreak? rest

/-- The characters after blanks, comments and line breaks. -/
def skipGaps : Bool → List Char → List Char
  | _, [] => []
  | inComment, c :: rest =>
      if c = '\n' ∨ (c = '\r' ∧ rest.head? = some '\n') then skipGaps false rest
      else if inComment then if isControl c then c :: rest else skipGaps true rest
      else if c = ' ' ∨ c = '\t' then skipGaps false rest
      else if c = '#' then skipGaps true rest
      else c :: rest

/-! ## Strings -/

/-- The character of an escape by one letter. -/
def shortEscape? (c : Char) : Option Char :=
  [('b', '\x08'), ('t', '\t'), ('n', '\n'), ('f', '\x0c'), ('r', '\r'), ('"', '"'),
    ('\\', '\\')].lookup c

/-- The character of a code point. -/
def charOfHex? (digits : List Char) : Option Char := do
  let n ← Text.hexNat? digits
  if n.isValidChar then some (Char.ofNat n) else none

/-- The character that is escaped behind a backslash, and what follows it. -/
def escape? : List Char → Option (Char × List Char)
  | [] => none
  | c :: rest =>
      let width := if c = 'u' then 4 else if c = 'U' then 8 else 0
      if width = 0 then (shortEscape? c).map (·, rest)
      else if (rest.take width).length = width then
        (charOfHex? (rest.take width)).map (·, rest.drop width)
      else none

/-- The content of a string up to its closing quote, and what follows it. -/
def basicString? : Nat → List Char → Option (List Char × List Char)
  | 0, _ | _, [] => none
  | fuel + 1, c :: rest =>
      if c = '"' then some ([], rest)
      else if c = '\\' then do
        let (escaped, rest) ← escape? rest
        let (content, rest) ← basicString? fuel rest
        return (escaped :: content, rest)
      else if isControl c then none
      else do
        let (content, rest) ← basicString? fuel rest
        return (c :: content, rest)

/-- The content of a string without escapes, and what follows it. -/
def literalString? (cs : List Char) : Option (List Char × List Char) :=
  match cs.span (· ≠ '\'') with
  | (content, _ :: rest) => if content.any isControl then none else some (content, rest)
  | (_, []) => none

/-- The rest of a string over several lines that starts with a run of quotes: at most two of them
    belong to the content, and three close the string. -/
def closing? (quote : Char) (cs : List Char) : Option (List Char × List Char) :=
  let count := (cs.takeWhile (· = quote)).length
  if 3 ≤ count then
    let kept := min 2 (count - 3)
    some (List.replicate kept quote, cs.drop (kept + 3))
  else none

/-- The characters after blanks and line breaks. -/
def skipLines : List Char → List Char
  | [] => []
  | '\r' :: '\n' :: rest => skipLines rest
  | c :: rest => if c = ' ' ∨ c = '\t' ∨ c = '\n' then skipLines rest else c :: rest

/-- The characters after a backslash at the end of a line: those after the blanks and line
    breaks. -/
def continuation? (cs : List Char) : Option (List Char) :=
  (lineBreak? (skipSpaces cs)).map skipLines

/-- The content of a string over several lines, with or without escapes, and what follows it. -/
def multilineString? (quote : Char) (escapes : Bool) :
    Nat → List Char → Option (List Char × List Char)
  | 0, _ | _, [] => none
  | fuel + 1, c :: rest =>
      match closing? quote (c :: rest) with
      | some result => some result
      | none =>
          if escapes && c == '\\' then
            match continuation? rest with
            | some rest => multilineString? quote escapes fuel rest
            | none => do
                let (escaped, rest) ← escape? rest
                let (content, rest) ← multilineString? quote escapes fuel rest
                return (escaped :: content, rest)
          else if isControl c && (lineBreak? (c :: rest)).isNone then none
          else do
            let (content, rest) ← multilineString? quote escapes fuel rest
            return (c :: content, rest)

/-- The characters without a line break at their start. -/
def dropLineBreak (cs : List Char) : List Char := (lineBreak? cs).getD cs

/-- A string at the front, and what follows it. -/
def string? : List Char → Option (List Char × List Char)
  | '"' :: '"' :: '"' :: rest => multilineString? '"' true (rest.length + 1) (dropLineBreak rest)
  | '\'' :: '\'' :: '\'' :: rest =>
      multilineString? '\'' false (rest.length + 1) (dropLineBreak rest)
  | '"' :: rest => basicString? (rest.length + 1) rest
  | '\'' :: rest => literalString? rest
  | _ => none

/-! ## Keys -/

/-- Whether a character may stand in a bare key. -/
def isKeyChar (c : Char) : Bool := c.isAlphanum || c == '-' || c == '_'

/-- One part of a key, and what follows it. -/
def keyPart? (cs : List Char) : Option (String × List Char) :=
  match cs with
  | '"' :: rest =>
      (basicString? (rest.length + 1) rest).map fun (name, rest) => (.ofList name, rest)
  | '\'' :: rest => (literalString? rest).map fun (name, rest) => (.ofList name, rest)
  | cs =>
      let (name, rest) := cs.span isKeyChar
      if name.isEmpty then none else some (.ofList name, rest)

/-- One or more parts of a dotted key, and what follows them. -/
def keyParts? : Nat → List Char → Option (List String × List Char)
  | 0, _ => none
  | fuel + 1, cs => do
      let (part, rest) ← keyPart? (skipSpaces cs)
      match skipSpaces rest with
      | '.' :: rest =>
          let (parts, rest) ← keyParts? fuel rest
          return (part :: parts, rest)
      | rest => return ([part], rest)

/-- The largest number of parts of a key, and of arrays and inline tables inside each other. -/
def maxDepth : Nat := 79

/-- A dotted key, and what follows it. -/
def key? (cs : List Char) : Option (List String × List Char) := do
  let (parts, rest) ← keyParts? (cs.length + 1) cs
  if parts.length ≤ maxDepth then return (parts, rest) else none

/-! ## Numbers and moments -/

/-- Digits without the underscores that stand between two of them. -/
def ungroup? (isDigit : Char → Bool) : List Char → Option (List Char)
  | [] => none
  | [c] => if isDigit c then some [c] else none
  | c :: '_' :: rest => if isDigit c then (ungroup? isDigit rest).map (c :: ·) else none
  | c :: rest => if isDigit c then (ungroup? isDigit rest).map (c :: ·) else none

/-- Whether a character is a digit to a base. -/
def isDigitOf (base : Nat) (c : Char) : Bool :=
  match Text.hexDigit? c with
  | some n => n < base
  | none => false

/-- The number of digits to a base. -/
def basedNumber? (base : Nat) (cs : List Char) : Option Nat :=
  (ungroup? (isDigitOf base) cs).map fun digits =>
    digits.foldl (fun n c => base * n + (Text.hexDigit? c).getD 0) 0

/-- The sign at the front, and what follows it. -/
def sign : List Char → Bool × List Char
  | '-' :: rest => (true, rest)
  | '+' :: rest => (false, rest)
  | cs => (false, cs)

/-- The digits of a decimal integer without superfluous zeros. -/
def decimalDigits? (cs : List Char) : Option (List Char) := do
  let digits ← ungroup? Char.isDigit cs
  if digits.head? = some '0' ∧ 1 < digits.length then none else some digits

/-- The integer of a decimal word. -/
def decimalInteger? (cs : List Char) : Option Int := do
  let (negative, rest) := sign cs
  let n ← Text.naturalOfDigits? (← decimalDigits? rest)
  return if negative then -(n : Int) else n

/-- The integer of a word. -/
def integer? (cs : List Char) : Option Toml := do
  let n ← match cs with
    | '0' :: 'x' :: rest => (basedNumber? 16 rest).map Int.ofNat
    | '0' :: 'o' :: rest => (basedNumber? 8 rest).map Int.ofNat
    | '0' :: 'b' :: rest => (basedNumber? 2 rest).map Int.ofNat
    | cs => decimalInteger? cs
  if Int64.minValue.toInt ≤ n ∧ n ≤ Int64.maxValue.toInt then some (.integer n) else none

/-- The digits of an exponent with its sign. -/
def exponent? (cs : List Char) : Option (List Char) :=
  let (negative, rest) := sign cs
  (ungroup? Char.isDigit rest).map fun digits => if negative then '-' :: digits else digits

/-- The fraction and exponent of a real number without underscores. -/
def fractionAndExponent? : List Char → Option (List Char)
  | '.' :: rest => do
      let (fraction, rest) := rest.span fun c => c.isDigit || c == '_'
      let digits ← ungroup? Char.isDigit fraction
      match rest with
      | [] => return '.' :: digits
      | mark :: rest =>
          if mark = 'e' ∨ mark = 'E' then return '.' :: digits ++ 'e' :: (← exponent? rest)
          else none
  | mark :: rest =>
      if mark = 'e' ∨ mark = 'E' then (exponent? rest).map ('e' :: ·) else none
  | [] => none

/-- The real number of a word. -/
def real? (cs : List Char) : Option Toml := do
  let (negative, rest) := sign cs
  let word := String.ofList rest
  if word = "inf" then return .real (.infinity negative)
  if word = "nan" then return .real .nan
  let (whole, rest) := rest.span fun c => c.isDigit || c == '_'
  let digits ← decimalDigits? whole
  let x ← Binary64.ofDigits? negative (digits ++ (← fractionAndExponent? rest))
  if x.isInfinite && !negative then none else return .real x

/-- What follows a time of day at the front. -/
def timeOfDay? (cs : List Char) : Option (List Char) := do
  let (hour, cs) ← Calendar.fixed? 2 cs
  let cs ← Calendar.expect? ':' cs
  let (minute, cs) ← Calendar.fixed? 2 cs
  let cs ← Calendar.expect? ':' cs
  let (second, cs) ← Calendar.fixed? 2 cs
  let (_, cs) ← Calendar.fraction? cs
  if hour ≤ 23 ∧ minute ≤ 59 ∧ second ≤ 60 then some cs else none

/-- What follows a date at the front. -/
def date? (cs : List Char) : Option (List Char) := do
  let (year, cs) ← Calendar.fixed? 4 cs
  let cs ← Calendar.expect? '-' cs
  let (month, cs) ← Calendar.fixed? 2 cs
  let cs ← Calendar.expect? '-' cs
  let (day, cs) ← Calendar.fixed? 2 cs
  if 1 ≤ month ∧ month ≤ 12 ∧ 1 ≤ day ∧ day ≤ Calendar.daysOfMonth year month then some cs else none

/-- Whether characters are a time of day with an optional offset. -/
def isTimeWithOffset (cs : List Char) : Bool :=
  match timeOfDay? cs with
  | some rest => rest.isEmpty || (Calendar.offset? rest).isSome
  | none => false

/-- Whether a word is a date, a time of day or both. -/
def isMoment (cs : List Char) : Bool :=
  match date? cs with
  | some [] => true
  | some (mark :: rest) => (mark == 'T' || mark == 't') && isTimeWithOffset rest
  | none => timeOfDay? cs == some []

/-- The value of a word. -/
def wordValue? (word : List Char) : Option Toml :=
  let text := String.ofList word
  if text = "true" then some (.boolean true)
  else if text = "false" then some (.boolean false)
  else if isMoment word then some (.moment text)
  else (integer? word).or (real? word)

/-- Whether a character may stand in a word. -/
def isWordChar (c : Char) : Bool :=
  c.isAlphanum || c == '+' || c == '-' || c == '_' || c == '.' || c == ':'

/-- The word at the front, and what follows it.  A date and a time of day with a blank between them
    are one word. -/
def word (cs : List Char) : List Char × List Char :=
  let (first, rest) := cs.span isWordChar
  match date? first, rest with
  | some [], ' ' :: more =>
      let (second, after) := more.span isWordChar
      if isTimeWithOffset second then (first ++ 'T' :: second, after) else (first, rest)
  | _, _ => (first, rest)

/-! ## Values -/

/-- The fields with the key that is written in parts. -/
def addTo (fields : TomlFields) (key : List String) (value : Toml) : Option TomlFields := do
  fields.addField key.dropLast (← key.getLast?) value .stated

mutual

/-- The value at the front inside `depth` brackets, and what follows it. -/
def value? : Nat → Nat → List Char → Option (Toml × List Char)
  | 0, _, _ => none
  | fuel + 1, depth, cs =>
      match cs with
      | '"' :: _ | '\'' :: _ =>
          (string? cs).map fun (content, rest) => (.string (.ofList content), rest)
      | '[' :: rest =>
          if maxDepth ≤ depth then none
          else (items? fuel (depth + 1) rest).map fun (items, rest) => (.array items, rest)
      | '\x7b' :: rest =>
          if maxDepth ≤ depth then none
          else
            match skipSpaces rest with
            | '\x7d' :: rest => some (.table .inline [], rest)
            | rest =>
                (fields? fuel (depth + 1) [] rest).map fun (fields, rest) =>
                  (.table .inline fields, rest)
      | cs => do
          let (word, rest) := word cs
          return (← wordValue? word, rest)

/-- The items up to the closing bracket; a comma may follow the last one. -/
def items? : Nat → Nat → List Char → Option (List Toml × List Char)
  | 0, _, _ => none
  | fuel + 1, depth, cs =>
      match skipGaps false cs with
      | ']' :: rest => some ([], rest)
      | cs => do
          let (item, rest) ← value? fuel depth cs
          match skipGaps false rest with
          | ']' :: rest => return ([item], rest)
          | ',' :: rest =>
              let (items, rest) ← items? fuel depth rest
              return (item :: items, rest)
          | _ => none

/-- One or more fields up to the closing brace, behind fields that are read already. -/
def fields? : Nat → Nat → TomlFields → List Char → Option (TomlFields × List Char)
  | 0, _, _, _ => none
  | fuel + 1, depth, fields, cs => do
      let (key, rest) ← key? cs
      let rest ← Calendar.expect? '=' rest
      let (value, rest) ← value? fuel depth (skipSpaces rest)
      let fields ← addTo fields key value
      match skipSpaces rest with
      | '\x7d' :: rest => return (fields, rest)
      | ',' :: rest => fields? fuel depth fields rest
      | _ => none

end

/-! ## Documents -/

/-- The statement at the front of a line, and what follows it. -/
def statement? (cs : List Char) : Option (TomlStatement × List Char) :=
  match cs with
  | '[' :: '[' :: rest => do
      let (path, rest) ← key? rest
      match rest with
      | ']' :: ']' :: rest => return (.arrayHeader path, rest)
      | _ => none
  | '[' :: rest => do
      let (path, rest) ← key? rest
      return (.header path, ← Calendar.expect? ']' rest)
  | cs => do
      let (key, rest) ← key? cs
      let rest ← Calendar.expect? '=' rest
      let (value, rest) ← value? (2 * rest.length + 2) 0 (skipSpaces rest)
      return (.field key.dropLast (← key.getLast?) value, rest)

/-- The statements of a text. -/
def statements? : Nat → List Char → Option (List TomlStatement)
  | 0, _ => none
  | fuel + 1, cs =>
      match skipGaps false cs with
      | [] => some []
      | cs => do
          let (statement, rest) ← statement? cs
          let statements ← statements? fuel (← endLine? rest)
          return statement :: statements

/-- The document that a text stands for. -/
def parse? (text : String) : Option TomlFields := do
  let cs := Text.dropByteOrderMark text.toList
  TomlFields.ofStatements? (← statements? (cs.length + 1) cs)

end Toml

end DocQuery
