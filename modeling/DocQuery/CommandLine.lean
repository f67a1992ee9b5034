import DocQuery.Compile.Printer
import DocQuery.Config.File
import DocQuery.Json.Printer
import DocQuery.Schema.Reader

/-!
# The command line

The command line shows what a query or a schema change compiles to.  What it does is decided here as
a function of its arguments, the environment and the files that it reads.
-/

namespace DocQuery

/-- What a command line asks for; files are named by their paths. -/
inductive Request where
  | explain (query : String)
  | schema (change : String) (existing : Option String)
deriving DecidableEq, Repr

/-- A command line that can be run. -/
structure Invocation where
  configDir : String
  request : Request
deriving DecidableEq, Repr

/-- A topic of the help texts. -/
inductive HelpTopic where
  | program
  | explain
  | schema
  | help
deriving DecidableEq, Repr

/-- What arguments stand for. -/
inductive ParsedArguments where
  | invocation (invocation : Invocation)
  | help (topic : HelpTopic)
  | invalid
deriving DecidableEq, Repr

namespace CommandLine

/-! ## Help -/

/-- Lines, each with its end. -/
def textOfLines (lines : List String) : String := String.join (lines.map (· ++ "\n"))

/-- The help text of a topic. -/
def helpText : HelpTopic → String
  | .program => textOfLines
      ["Compile relational queries into document-store pipelines",
        "",
        "Usage: docpipe [OPTIONS] <COMMAND>",
        "",
        "Commands:",
        "  explain  Print the native command a query compiles to",
        "  schema   Print the native command a schema change compiles to",
        "  help     Print this message or the help of the given subcommand(s)",
        "",
        "Options:",
        "      --config-dir <CONFIG_DIR>  Directory holding docpipe.toml and .env [default: .]",
        "  -h, --help                     Print help"]
  | .explain => textOfLines
      ["Print the native command a query compiles to",
        "",
        "Usage: docpipe explain <QUERY>",
        "",
        "Arguments:",
        "  <QUERY>  Query model as JSON",
        "",
        "Options:",
        "  -h, --help  Print help"]
  | .schema => textOfLines
      ["Print the native command a schema change compiles to",
        "",
        "Usage: docpipe schema [OPTIONS] <CHANGE>",
        "",
        "Arguments:",
        "  <CHANGE>  Schema change as JSON",
        "",
        "Options:",
        "      --existing <EXISTING>  Validator currently attached to the collection, as JSON",
        "  -h, --help                 Print help"]
  | .help => textOfLines
      ["Print this message or the help of the given subcommand(s)",
        "",
        "Usage: docpipe help [COMMAND]...",
        "",
        "Arguments:",
        "  [COMMAND]...  Print help for the subcommand(s)"]

/-- The topic that the arguments of the help command name. -/
def helpTopic? : List String → Option HelpTopic
  | [] => some .program
  | ["explain"] => some .explain
  | ["schema"] => some .schema
  | ["help"] => some .help
  | _ => none

/-! ## Arguments -/

/-- Whether an argument starts with some text. -/
def startsWith (text argument : String) : Bool := text.toList.isPrefixOf argument.toList

/-- Whether an argument is written as an option. -/
def isOption (argument : String) : Bool := startsWith "-" argument && argument != "-"

/-- Whether an argument asks for help. -/
def asksHelp (argument : String) : Bool := argument == "--help" || startsWith "-h" argument

/-- The value that is written behind the name of an option and an equals sign. -/
def attached? (option argument : String) : Option String :=
  let opening := option ++ "="
  if startsWith opening argument then
    some (String.ofList (argument.toList.drop opening.length))
  else none

/-- Whether an argument is the name of a file. -/
def isFileName (argument : String) : Bool := argument != ""

/-- What the arguments of a command give: its file, and the file of its only option. -/
inductive CommandArguments where
  | files (positional option : Option String)
  | help
  | invalid

/-- The arguments of a command behind those that are read already.  `option` is the name of the
    command's option, if it has one; behind `--` nothing is an option. -/
def commandArguments (option : Option String) :
    Bool → Option String → Option String → List String → CommandArguments
  | _, positional, value, [] => .files positional value
  | true, positional, value, argument :: rest =>
      if positional.isSome || !isFileName argument then .invalid
      else commandArguments option true (some argument) value rest
  | false, positional, value, argument :: rest =>
      if argument = "--" then commandArguments option true positional value rest
      else if asksHelp argument then .help
      else if some argument = option then
        match rest with
        | [] => .invalid
        | file :: rest =>
            if value.isSome || isOption file || !isFileName file then .invalid
            else commandArguments option false positional (some file) rest
      else
        match option.bind (attached? · argument) with
        | some file =>
            if value.isSome || !isFileName file then .invalid
            else commandArguments option false positional (some file) rest
        | none =>
            if isOption argument || positional.isSome || !isFileName argument then .invalid
            else commandArguments option false (some argument) value rest

/-- The command of a name with its arguments. -/
def command (configDir name : String) (arguments : List String) : ParsedArguments :=
  match name with
  | "explain" =>
      match commandArguments none false none none arguments with
      | .files (some query) _ => .invocation ⟨configDir, .explain query⟩
      | .help => .help .explain
      | _ => .invalid
  | "schema" =>
      match commandArguments (some "--existing") false none none arguments with
      | .files (some change) existing => .invocation ⟨configDir, .schema change existing⟩
      | .help => .help .schema
      | _ => .invalid
  | "help" => (helpTopic? arguments).elim .invalid .help
  | _ => .invalid

/-- What arguments stand for, behind a directory that is given already. -/
def parseBehind : Option String → List String → ParsedArguments
  | _, [] => .invalid
  | configDir, argument :: rest =>
      if asksHelp argument then .help .program
      else if argument = "--config-dir" then
        match rest with
        | [] => .invalid
        | dir :: rest =>
            if configDir.isSome || isOption dir || !isFileName dir then .invalid
            else parseBehind (some dir) rest
      else
        match attached? "--config-dir" argument with
        | some dir =>
            if configDir.isSome || !isFileName dir then .invalid else parseBehind (some dir) rest
        | none => command (configDir.getD ".") argument rest

/-- What arguments stand for. -/
def parse (arguments : List String) : ParsedArguments := parseBehind none arguments

/-! ## Runs -/

/-- What a run leaves: the exit code, and what it writes to the two outputs. -/
structure Outcome where
  exitCode : UInt32
  output : String
  errors : String
deriving DecidableEq, Repr

/-- The outcome of a run that works. -/
def success (output : String) : Outcome := ⟨0, output, ""⟩

/-- The outcome of a run that fails. -/
def failure (message : String) : Outcome := ⟨1, "", "Error: " ++ message ++ "\n"⟩

/-- The outcome of arguments that stand for nothing. -/
def usageError : Outcome := ⟨2, "", helpText .program⟩

/-- The path of a file in a directory. -/
def inDirectory (dir file : String) : String :=
  if dir.toList.getLast? = some '/' then dir ++ file else dir ++ "/" ++ file

/-- The paths of all files that an invocation may read. -/
def paths (invocation : Invocation) : List String :=
  [inDirectory invocation.configDir Config.fileName,
    inDirectory invocation.configDir Config.environmentFileName] ++
    match invocation.request with
    | .explain query => [query]
    | .schema change existing => change :: existing.toList

/-- The value of a JSON file, or why there is none. -/
def readJson {α : Type} (readFile : String → Option String) (read : Json → Option α)
    (path : String) : Except String α :=
  match readFile path with
  | none => .error ("reading " ++ path)
  | some text =>
      match (Json.parse? text).bind read with
      | some value => .ok value
      | none => .error ("parsing " ++ path)

/-- The command that a query compiles to. -/
def queryCommand (query : Query) (encoder : Encoder) : Compiled Json :=
  match query.action with
  | .find => ReadCommand.toJson <$> query.readCommand encoder
  | .insert => InsertCommand.toJson <$> query.insertCommand encoder
  | .update | .delete => WriteCommand.toJson <$> query.writeCommand encoder

/-- What a request shows, or why it fails. -/
def answer (readFile : String → Option String) (encoder : Encoder) : Request → Except String Json
  | .explain path => do
      let query ← readJson readFile Query.ofJson? path
      (queryCommand query encoder).mapError CompileError.message
  | .schema path existing => do
      let change ← readJson readFile SchemaChange.ofJson? path
      let existing ← existing.mapM (readJson readFile Document.ofJson?)
      SchemaCommand.toJson <$> (change.command existing).mapError CompileError.message

/-- What an invocation shows, or why it fails. -/
def runInvocation (readFile : String → Option String) (environment : Environment)
    (invocation : Invocation) : Except String Json := do
  let read (name : String) := readFile (inDirectory invocation.configDir name)
  let config ← (Config.load (read Config.fileName) (read Config.environmentFileName)
    environment).mapError ConfigError.message
  answer readFile config.encoder invocation.request

/-- The outcome of a run. -/
def run (readFile : String → Option String) (environment : Environment) (arguments : List String) :
    Outcome :=
  match parse arguments with
  | .invalid => usageError
  | .help topic => success (helpText topic)
  | .invocation invocation =>
      match runInvocation readFile environment invocation with
      | .ok json => success (json.pretty ++ "\n")
      | .error message => failure message

end CommandLine

end DocQuery
