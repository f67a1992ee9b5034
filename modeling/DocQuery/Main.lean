import DocQuery.CommandLine

/-!
# The program

Reads the files and variables that a command line may need, and writes what the run leaves.
-/

namespace DocQuery

namespace CommandLine

/-- The text of a file, if there is one. -/
def readText? (path : String) : IO (Option String) := do
  try return some (← IO.FS.readFile ⟨path⟩)
  catch _ => return none

/-- The files of a command line that are there, by their paths. -/
def readFiles (arguments : List String) : IO (List (String × String)) := do
  match parse arguments with
  | .invocation invocation =>
      (paths invocation).filterMapM fun path => do
        return (← readText? path).map fun text => (path, text)
  | _ => return []

/-- The variables that override settings or that a text refers to. -/
def readEnvironment (texts : List String) : IO Environment :=
  let referred := texts.flatMap fun text => EnvironmentFile.referredNames text.toList
  (Config.variableNames ++ referred).filterMapM fun name => do
    return (← IO.getEnv name).map fun value => (name, value)

end CommandLine

end DocQuery

open DocQuery in
/-- Runs a command line. -/
def main (arguments : List String) : IO UInt32 := do
  let files ← CommandLine.readFiles arguments
  let environment ← CommandLine.readEnvironment (files.map Prod.snd)
  let outcome := CommandLine.run (fun path => files.lookup path) environment arguments
  (← IO.getStdout).putStr outcome.output
  (← IO.getStderr).putStr outcome.errors
  return outcome.exitCode
