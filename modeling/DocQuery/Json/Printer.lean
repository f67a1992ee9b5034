import DocQuery.Binary64.Decimal
import DocQuery.Json
import DocQuery.Text.Hex

/-!
# Writing JSON texts

`compact` writes a value without blanks, `pretty` one item or member a line with two blanks for each
level.  A number that is none, or infinite, is written as `null`.
-/

namespace DocQuery

namespace Json

/-- How one character is written in a string. -/
def escapeChar (c : Char) : List Char :=
  if c = '"' then ['\\', '"']
  else if c = '\\' then ['\\', '\\']
  else if c = '\n' then ['\\', 'n']
  else if c = '\r' then ['\\', 'r']
  else if c = '\t' then ['\\', 't']
  else if c = '\x08' then ['\\', 'b']
  else if c = '\x0c' then ['\\', 'f']
  else if c.toNat < 0x20 then ['\\', 'u'] ++ Text.hexDigits 4 c.toNat
  else [c]

/-- A text as a JSON string. -/
def quoted (text : String) : String :=
  String.ofList ('"' :: text.toList.flatMap escapeChar ++ ['"'])

/-- The text of a number. -/
def numberText : JsonNumber → String
  | .natural n => toString n.toNat
  | .negative n => toString n.toInt
  | .real x => if x.isNaN || x.isInfinite then "null" else Binary64.json.render x

/-- The text of a value that has no parts. -/
def scalarText : Json → String
  | .bool value => if value then "true" else "false"
  | .number n => numberText n
  | .string text => quoted text
  | _ => "null"

mutual

/-- The text of a value without blanks. -/
def compact : Json → String
  | .array items => "[" ++ ",".intercalate (compactItems items) ++ "]"
  | .object members => "\x7b" ++ ",".intercalate (compactMembers members) ++ "\x7d"
  | scalar => scalarText scalar
termination_by structural a => a

/-- The texts of items without blanks. -/
def compactItems : List Json → List String
  | [] => []
  | item :: rest => compact item :: compactItems rest
termination_by structural a => a

/-- The texts of members without blanks. -/
def compactMembers : List (String × Json) → List String
  | [] => []
  | (name, value) :: rest => (quoted name ++ ":" ++ compact value) :: compactMembers rest
termination_by structural a => a

end

/-- A line break and the blanks of a level. -/
def newline (level : Nat) : String := String.ofList ('\n' :: List.replicate (2 * level) ' ')

/-- Lines of a level between an opening and a closing mark, or the marks alone. -/
def block (opening closing : String) (level : Nat) (lines : List String) : String :=
  if lines.isEmpty then opening ++ closing
  else
    opening ++ newline (level + 1) ++ (("," ++ newline (level + 1)).intercalate lines) ++
      newline level ++ closing

mutual

/-- The text of a value that starts on a line of a level. -/
def prettyAt : Nat → Json → String
  | level, .array items => block "[" "]" level (prettyItems (level + 1) items)
  | level, .object members => block "\x7b" "\x7d" level (prettyMembers (level + 1) members)
  | _, scalar => scalarText scalar
termination_by structural _ a => a

/-- The texts of items on lines of a level. -/
def prettyItems : Nat → List Json → List String
  | _, [] => []
  | level, item :: rest => prettyAt level item :: prettyItems level rest
termination_by structural _ a => a

/-- The texts of members on lines of a level. -/
def prettyMembers : Nat → List (String × Json) → List String
  | _, [] => []
  | level, (name, value) :: rest =>
      (quoted name ++ ": " ++ prettyAt level value) :: prettyMembers level rest
termination_by structural _ a => a

end

/-- The text of a value with one item or member a line. -/
def pretty (value : Json) : String := prettyAt 0 value

end Json

end DocQuery
