import SchemaDesign.EnvironmentFile
import SchemaDesign.Execution.Basic

/-!
# The command line

The command carries out a script of SQL on a new schema and prints the schema in a format.  It
fails if any statement has failed, but prints the schema all the same.
-/

namespace SchemaDesign.CommandLine

/-- What the command is asked to do. -/
structure Invocation where
  /-- The path of the script. -/
  path : String
  format : ExportFormat
deriving DecidableEq, Repr

/-- Why the command was not understood. -/
inductive UsageError where
  | noScript
  | unknownFormat (error : ExportFormat.UnknownFormat)
deriving DecidableEq, Repr

/-- The line shown for a command that was not understood. -/
def UsageError.message : UsageError → String
  | .noScript => "usage: schemaforge <file.sql> [format]"
  | .unknownFormat error => error.message

/-- The invocation that arguments spell: the path of a script, and a format unless the settings are
to choose it.  Further arguments are passed over. -/
def Invocation.ofArguments (config : Config) : List String → Except UsageError Invocation
  | [] => .error .noScript
  | [path] => .ok { path, format := config.exportFormat }
  | path :: name :: _ =>
      match ExportFormat.ofText name with
      | .ok format => .ok { path, format }
      | .error error => .error (.unknownFormat error)

/-- What the command writes and how it ends. -/
structure Outcome where
  exitCode : Nat
  output : String := ""
  errors : String := ""
deriving DecidableEq, Repr

/-- The outcome of a script, or of a path at which there is none, given the number of the first
identity and the time. -/
def runScript (config : Config) (format : ExportFormat) (firstId : Nat) (now : Timestamp) :
    Option String → Outcome
  | none => { exitCode := 1 }
  | some script =>
      let session := Session.ofConfig config firstId now
      let (reports, session) := (SessionM.execute script).run session
      { exitCode := if reports.all fun report => report.success then 0 else 1
        output := session.schema.export format }

/-- The settings that the environment and the file of further variables give, if there is one. -/
def configOf (environment : List (String × String)) (settings : Option String) : Config :=
  let assignments := (settings.map EnvironmentFile.assignments).getD []
  let environment := EnvironmentFile.load environment assignments
  Config.ofVariables (EnvironmentFile.valueOf? environment)

/-- The outcome of the command, given its arguments, the environment, the file of further variables
if there is one, and the text at each path.  It is the same for all first identities and times. -/
def run (arguments : List String) (environment : List (String × String))
    (settings : Option String) (textAt : String → Option String) (firstId : Nat := 1)
    (now : Timestamp := .epoch) : Outcome :=
  let config := configOf environment settings
  match Invocation.ofArguments config arguments with
  | .error error => { exitCode := 2, errors := error.message ++ "\n" }
  | .ok invocation =>
      runScript config invocation.format firstId now (textAt invocation.path)

end SchemaDesign.CommandLine
