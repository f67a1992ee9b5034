import DocQuery.Environment
import DocQuery.Text.Alphanumeric
import DocQuery.Text.Blank

/-!
# Environment files

An environment file assigns values to variables, one assignment a line.  Values may be quoted, also
over several lines, and may refer to variables by `$NAME` or by the name between braces.  The first
line that cannot be read ends the file; the assignments before it hold.
-/

namespace DocQuery

namespace EnvironmentFile

/-! ## Logical lines

A logical line ends at the first line break that is neither quoted nor escaped.  Two rules are
looser than those for values: a blank suspends the end of the text, so that a text may not end in
one, and of two blanks the second one does not. -/

/-- Where the scan of a line stands. -/
inductive ScanState where
  | plain
  | escape
  /-- Behind a blank. -/
  | blank
  | single
  | singleEscape
  | double
  | doubleEscape
deriving DecidableEq

/-- The state after a character that starts something outside of quotes. -/
def ScanState.opened (c : Char) : ScanState :=
  if c = '\\' then .escape
  else if c = '"' then .double
  else if c = '\'' then .single
  else .plain

/-- The state after a character. -/
def ScanState.next : ScanState → Char → ScanState
  | .plain, c => if Text.isBlank c && c != '\n' && c != '\r' then .blank else .opened c
  | .blank, c => .opened c
  | .escape, _ => .plain
  | .single, c => if c = '\\' then .singleEscape else if c = '\'' then .plain else .single
  | .singleEscape, _ => .single
  | .double, c => if c = '\\' then .doubleEscape else if c = '"' then .plain else .double
  | .doubleEscape, _ => .double

/-- The characters of a line up to a comment, and the state at their end; a comment leaves none. -/
def scanLine : ScanState → List Char → List Char × Option ScanState
  | state, [] => ([], some state)
  | state, c :: rest =>
      if state = .blank ∧ c = '#' then ([], none)
      else
        let (kept, last) := scanLine (state.next c) rest
        (c :: kept, last)

/-- The lines of a text, each with its line break. -/
def linesOf : List Char → List (List Char)
  | [] => []
  | c :: rest =>
      if c = '\n' then [c] :: linesOf rest
      else
        match linesOf rest with
        | [] => [[c]]
        | line :: lines => (c :: line) :: lines

/-- A line without its line break. -/
def dropLineBreak (line : List Char) : List Char :=
  match line.reverse with
  | '\n' :: '\r' :: rest => rest.reverse
  | '\n' :: rest => rest.reverse
  | _ => line

/-- The logical lines behind the start of one; `none` stands for one that does not end. -/
def logicalLines (start : List Char) (state : ScanState) :
    List (List Char) → List (Option (List Char))
  | [] => if state = .plain then [] else [none]
  | line :: rest =>
      if (Text.dropBlanks (start ++ line)).head? = some '#' then
        some [] :: logicalLines [] .plain rest
      else
        match scanLine state line with
        | (kept, none) => some (start ++ kept) :: logicalLines [] .plain rest
        | (_, some .plain) => some (dropLineBreak (start ++ line)) :: logicalLines [] .plain rest
        | (_, some state) => logicalLines (start ++ line) state rest

/-! ## Values -/

/-- Whether text stands between double quotes. -/
inductive Place where
  | plain
  | quoted
deriving DecidableEq

/-- What the next character of a value belongs to. -/
inductive ValueState where
  | text (place : Place)
  /-- Between single quotes. -/
  | single
  | escape (place : Place)
  /-- A variable behind a dollar sign, with its name so far. -/
  | name (place : Place) (name : List Char)
  /-- A variable between braces. -/
  | braced (place : Place) (name : List Char)
  /-- Behind the value. -/
  | ended

/-- The characters that an escape may stand for, by their letters. -/
def escapes : List (Char × Char) :=
  [('\\', '\\'), ('\'', '\''), ('"', '"'), ('$', '$'), (' ', ' '), ('n', '\n')]

/-- The value of a variable; one that is not set is empty. -/
def valueOf (environment : Environment) (name : List Char) : List Char :=
  ((environment.get? (.ofList name)).getD "").toList

/-- The characters that stand for those of a written value. -/
def value? (environment : Environment) : ValueState → List Char → Option (List Char)
  | .text .plain, [] | .ended, [] | .escape .plain, [] => some []
  | .name .plain name, [] => some (valueOf environment name)
  | _, [] => none
  | .ended, c :: rest =>
      if c = ' ' ∨ c = '\t' then value? environment .ended rest
      else if c = '#' then some []
      else none
  | .escape place, c :: rest => do
      let escaped ← escapes.lookup c
      return escaped :: (← value? environment (.text place) rest)
  | .single, c :: rest =>
      if c = '\'' then value? environment (.text .plain) rest
      else (value? environment .single rest).map (c :: ·)
  | .name place name, c :: rest =>
      if Text.isAlphanumeric c then value? environment (.name place (name ++ [c])) rest
      else if c = '\x7b' ∧ name.isEmpty then value? environment (.braced place []) rest
      else if c = '$' then
        (value? environment (.name place []) rest).map (valueOf environment name ++ ·)
      else (value? environment (.text place) rest).map (valueOf environment name ++ c :: ·)
  | .braced place name, c :: rest =>
      if c = '\x7d' then
        (value? environment (.text place) rest).map (valueOf environment name ++ ·)
      else value? environment (.braced place (name ++ [c])) rest
  | .text place, c :: rest =>
      if c = '$' then value? environment (.name place []) rest
      else if c = '\\' then value? environment (.escape place) rest
      else if place = .quoted then
        if c = '"' then value? environment (.text .plain) rest
        else (value? environment (.text .quoted) rest).map (c :: ·)
      else if c = '\'' then value? environment .single rest
      else if c = '"' then value? environment (.text .quoted) rest
      else if c = ' ' ∨ c = '\t' then value? environment .ended rest
      else (value? environment (.text .plain) rest).map (c :: ·)

/-! ## Assignments -/

/-- Whether a character may start a name. -/
def startsName (c : Char) : Bool := c.isAlpha || c == '_'

/-- Whether a character may stand in a name. -/
def isNameChar (c : Char) : Bool := c.isAlphanum || c == '_' || c == '.'

/-- The name at the front, and what follows it and the blanks behind it. -/
def name? (cs : List Char) : Option (List Char × List Char) :=
  if (cs.head?.map startsName).getD false then
    let (name, rest) := cs.span isNameChar
    some (name, Text.dropBlanks rest)
  else none

/-- What follows an equals sign. -/
def assigned? : List Char → Option (List Char)
  | '=' :: rest => some rest
  | _ => none

/-- The name that is assigned to, and what follows the equals sign.  The word `export` may stand
    before the name. -/
def target? (cs : List Char) : Option (List Char × List Char) := do
  let (name, rest) ← name? cs
  match assigned? rest with
  | some rest => return (name, rest)
  | none =>
      if name = "export".toList then
        let (name, rest) ← name? rest
        return (name, ← assigned? rest)
      else none

/-- Whether nothing is left of a line but a comment. -/
def isOver (cs : List Char) : Bool := cs.isEmpty || cs.head? == some '#'

/-- The environment after a logical line, if it can be read. -/
def applyLine? (environment : Environment) (line : List Char) : Option Environment := do
  let cs := Text.dropBlanks (Text.dropEndBlanks line)
  if isOver cs then return environment
  let (name, rest) ← target? cs
  let rest := Text.dropBlanks rest
  let value ← if isOver rest then some [] else value? environment (.text .plain) rest
  return environment.addDefault (.ofList name) (.ofList value)

/-- The environment after the lines that can be read. -/
def applyLines (environment : Environment) : List (Option (List Char)) → Environment
  | some line :: rest =>
      match applyLine? environment line with
      | some environment => applyLines environment rest
      | none => environment
  | _ => environment

/-- The name behind a dollar sign. -/
def referredName : List Char → List Char
  | '\x7b' :: rest => rest.takeWhile (· ≠ '\x7d')
  | cs => cs.takeWhile Text.isAlphanumeric

/-- The names of variables that the values of a text may refer to. -/
def referredNames : List Char → List String
  | [] => []
  | c :: rest =>
      if c = '$' then .ofList (referredName rest) :: referredNames rest else referredNames rest

end EnvironmentFile

/-- The environment with the assignments of an environment file, which variables that have a value
    ignore. -/
def Environment.addFile (environment : Environment) (text : String) : Environment :=
  EnvironmentFile.applyLines environment <|
    EnvironmentFile.logicalLines [] .plain <|
      EnvironmentFile.linesOf (Text.dropByteOrderMark text.toList)

end DocQuery
