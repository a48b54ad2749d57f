import SchemaDesign.CommandLine

/-!
# The program

Reads the environment and the files, and leaves the rest to the command line.
-/

namespace SchemaDesign

/-- The text of a file, if there is a file of text at a path. -/
def readText? (path : String) : IO (Option String) := do
  try
    return some (← IO.FS.readFile path)
  catch _ =>
    return none

/-- The text of the first file of variables in the current directory and so many directories above
it. -/
def readVariables? (path : String) : Nat → IO (Option String)
  | 0 => readText? path
  | levels + 1 => do
      match ← readText? path with
      | some text => return some text
      | none => readVariables? ("../" ++ path) levels

/-- The named variables that have a value. -/
def environmentOf (names : List String) : IO (List (String × String)) :=
  names.filterMapM fun name => do
    return (← IO.getEnv name).map fun value => (name, value)

end SchemaDesign

open SchemaDesign in
/-- Carries out the script of a path and prints the schema. -/
def main (arguments : List String) : IO UInt32 := do
  let levels := (← IO.currentDir).components.length
  let settings ← readVariables? ".env" levels
  let assignments := (settings.map EnvironmentFile.assignments).getD []
  let names := Config.variableNames ++ EnvironmentFile.names assignments
  let environment ← environmentOf names.eraseDups
  let script ← arguments.head?.bindM readText?
  let outcome := CommandLine.run arguments environment settings fun _ => script
  IO.print outcome.output
  IO.eprint outcome.errors
  return outcome.exitCode.toUInt32
