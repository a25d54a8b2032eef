import FlowScript.Cli.Command
import FlowScript.Cli.Help
import FlowScript.Cli.VariableFile
import FlowScript.Conversion
import FlowScript.Json.Schema
import FlowScript.Session
import FlowScript.Store.Client
import FlowScript.Workflow.Schema

/-!
# Running commands

A command is a session that comes to an ending: an exit code and what is printed. A run
either does what it is told or fails with one error, and what it prints on the output
comes from a run that does not fail. Warnings, and an assistant that gives no answer, are
no failure.

* `Command.run` runs a command, given the variables.
* `program` runs a command line, with the variables of the file `.env` added. If one of
  these cannot be set, that is the end, with an exit code of its own.
-/

namespace FlowScript

namespace Cli

open Http

/-! ### Endings -/

/-- How a run ends. -/
structure Ending where
  /-- the exit code -/
  exitCode : Nat := 0
  /-- what is printed on the output -/
  output : String := ""
  /-- what is printed beside it, warnings and errors; lines of the log, which have the time of
  day in them, are left out -/
  notes : String := ""
deriving DecidableEq

/-- Why a run fails. -/
inductive RunError where
  /-- something is not read -/
  | unread (what : String) (fault : FileFault)
  /-- a file is not written -/
  | unwritten (path : String) (fault : FileFault)
  /-- a file holds no workflow -/
  | noWorkflow (error : ParseError)
  /-- the store does not give what is asked for -/
  | store (error : Store.Error)
  /-- no workflow is named -/
  | noSource

/-- The wording of an error. -/
def RunError.message : RunError → String
  | .unread what fault => "reading " ++ what ++ ": " ++ fault.message
  | .unwritten path fault => "writing " ++ path ++ ": " ++ fault.message
  | .noWorkflow error => error.message
  | .store error => error.message
  | .noSource => "either --workflow-id or --file is required"

/-- The ending of a run that fails. -/
def RunError.ending (error : RunError) (notes : String) : Ending :=
  { exitCode := 1, notes := notes ++ "Error: " ++ error.message ++ "\n" }

/-- Goes on where an attempt gives a result, and ends the run where it fails. -/
def proceed {α : Type} (attempt : Session (Except RunError α)) (next : α → Session Ending) :
    Session Ending := do
  match ← attempt with
  | .ok result => next result
  | .error error => pure (error.ending "")

/-! ### What commands read -/

/-- The text that bytes make. -/
def textOf (what : String) (bytes : List UInt8) : Except RunError String :=
  match Text.Utf8.strict? bytes with
  | some text => .ok text
  | none => .error (.unread what .notText)

/-- Reads a file of text; `what` says what it is read for. -/
def readText (what path : String) : Session (Except RunError String) :=
  .readFile path fun
    | .error fault => .done (.error (.unread (what ++ path) fault))
    | .ok bytes => .done (textOf (what ++ path) bytes)

/-- Reads the workflow in a file. -/
def loadFile (path : String) : Session (Except RunError Workflow) := do
  let read ← readText "workflow file " path
  pure (read.bind fun text => (Workflow.ofText text).mapError .noWorkflow)

/-- Asks the store; what cannot be asked is an error. -/
def askStore {α : Type} (environment : Environment)
    (question : Store.Client → Dialogue (Except Store.Error α)) : Session (Except RunError α) :=
  match Store.Client.ofEnvironment environment with
  | .error error => pure (.error (.store error))
  | .ok client => do
    let answer ← Session.ofDialogue (question client)
    pure (answer.mapError .store)

/-- Loads the workflow that is named; a file counts first. -/
def Source.load (source : Source) (environment : Environment) :
    Session (Except RunError Workflow) :=
  match source.file, source.workflowId with
  | some path, _ => loadFile path
  | none, some id => askStore environment fun client => client.fetch id
  | none, none => pure (.error .noSource)

/-- Reads code from a file, or from the input. -/
def readCode : Option String → Session (Except RunError String)
  | some path => readText "" path
  | none => .readInput fun bytes => .done (textOf "code from stdin" bytes)

/-! ### Refactoring -/

/-- The intent, if one is given. -/
def Refactoring.intent? (refactoring : Refactoring) : Option Intent :=
  refactoring.intent.map fun text => { text, useAssistant := !refactoring.noAssistant }

/-- The refactorer for an intent. The assistant is left out where the intent says so. -/
def refactorerFor (environment : Environment) (intent? : Option Intent) : Refactorer Dialogue :=
  if intent?.any fun intent => intent.useAssistant then
    { reviser? := some (Assistant.reviser (.ofEnvironment environment)) }
  else { }

/-! ### Commands -/

/-- Lines of text, each with its line feed. -/
def printLines (lines : List String) : String :=
  String.join (lines.map fun line => line ++ "\n")

/-- Ends a conversion: its code is printed, or written to a file. -/
def deliver (conversion : Conversion) (output : Option String) : Session Ending :=
  let notes := printLines (conversion.warnings.map fun warning => "warning: " ++ warning.message)
  match output with
  | none => pure { output := conversion.code ++ "\n", notes }
  | some path =>
    .writeFile path (Text.Utf8.encode conversion.code.toList) fun
      | .error fault => .done ((RunError.unwritten path fault).ending notes)
      | .ok () =>
        let report := "Wrote " ++ toString conversion.nodeCount ++ " nodes to " ++ path ++ "\n"
        .done { notes := notes ++ report }

/-- Makes a program from a workflow. -/
def convert (environment : Environment) (source : Source) (refactoring : Refactoring)
    (output : Option String) : Session Ending :=
  proceed (source.load environment) fun workflow => do
    let intent? := refactoring.intent?
    let conversion ← Session.ofDialogue
      (workflow.convert intent? (refactorerFor environment intent?))
    deliver conversion output

/-- Refactors code. Without an intent nothing is to be done. -/
def refactor (environment : Environment) (codeFile : Option String) (refactoring : Refactoring) :
    Session Ending :=
  proceed (readCode codeFile) fun code => do
    let intent := refactoring.intent?.getD { text := "" }
    let refactored ← Session.ofDialogue
      ((refactorerFor environment (some intent)).refactor code intent)
    pure { output := refactored }

/-- The row of a workflow in a list. -/
def summaryRow (summary : Store.Summary) : String :=
  let updated := match summary.updatedAt with
    | some instant => instant.shortText
    | none => "-"
  padRight 12 summary.id ++ " " ++ padRight 8 (if summary.active then "active" else "inactive") ++
    " " ++ padRight 17 updated ++ " " ++ summary.name

/-- Lists workflows of the store. -/
def list (environment : Environment) (options : Store.ListOptions) (json : Bool) : Session Ending :=
  proceed (askStore environment fun client => client.list options) fun page =>
    if json then pure { output := page.toValue.indentedText ++ "\n" }
    else
      let more := page.nextCursor.toList.map fun cursor => "More results: --cursor " ++ cursor
      pure { output := printLines (page.data.map summaryRow), notes := printLines more }

/-- Warns of what is odd about a workflow. -/
def validate (environment : Environment) (source : Source) : Session Ending :=
  proceed (source.load environment) fun workflow =>
    let warnings := workflow.warnings
    if warnings.isEmpty then
      pure { output := "OK: " ++ toString workflow.nodes.length ++ " nodes, no warnings\n" }
    else pure { output := printLines (warnings.map Warning.message) }

/-- Runs a command. -/
def Command.run (environment : Environment) : Command → Session Ending
  | .convert source refactoring output => Cli.convert environment source refactoring output
  | .refactor codeFile refactoring => Cli.refactor environment codeFile refactoring
  | .list options json => Cli.list environment options json
  | .validate source => Cli.validate environment source
  | .schema => pure { output := Workflow.schema.toValue.indentedText ++ "\n" }

/-! ### The program -/

/-- The ending when there is no command to run. -/
def UsageError.ending (error : UsageError) : Ending :=
  { exitCode := error.exitCode, output := error.output, notes := error.complaint }

/-- The ending when a variable cannot be set. Nothing has been done then, and the command line
has not been looked at. -/
def crash (unsettable : VariableFile.Unsettable) : Ending :=
  { exitCode := 101, notes := unsettable.message ++ "\n" }

/-- Runs a command line. -/
def program (environment : Environment) (words : List String) : Session Ending :=
  .findFile ".env" fun content =>
    match content.elim (.ok environment) (VariableFile.load environment) with
    | .error unsettable => .done (crash unsettable)
    | .ok environment =>
      match Command.parse words with
      | .ok command => command.run environment
      | .error error => .done error.ending

end Cli

end FlowScript
