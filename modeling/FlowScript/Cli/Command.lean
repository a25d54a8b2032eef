import FlowScript.Cli.Usage
import FlowScript.Store.Page

/-!
# Commands

What the program can be told to do, and how it is said on the command line. A workflow
comes from a file or from the store: reading the command line makes sure that exactly one
of them is named, while the type of a command admits both and neither.

* `Command.parse` reads a command line.
-/

namespace FlowScript

namespace Cli

/-- Where a workflow comes from. -/
structure Source where
  /-- the workflow with this identifier in the store -/
  workflowId : Option String := none
  /-- the workflow in this file -/
  file : Option String := none
deriving DecidableEq

/-- How code is to be refactored. -/
structure Refactoring where
  /-- what is to be done -/
  intent : Option String := none
  /-- whether to do without an assistant -/
  noAssistant : Bool := false
deriving DecidableEq

/-- What the program is told to do. -/
inductive Command where
  /-- make a program from a workflow, and write it to a file or to the output -/
  | convert (source : Source) (refactoring : Refactoring) (output : Option String)
  /-- refactor the code in a file, or in the input -/
  | refactor (codeFile : Option String) (refactoring : Refactoring)
  /-- list workflows of the store, as rows or as a document -/
  | list (options : Store.ListOptions) (json : Bool)
  /-- warn of what is odd about a workflow -/
  | validate (source : Source)
  /-- print the schema of workflow documents -/
  | schema
deriving DecidableEq

/-! ### From options to commands -/

namespace Progress

/-- Where the workflow comes from: one of the two places, and not both. -/
def source (progress : Progress) : Except UsageError Source :=
  match progress.value? .workflowId, progress.value? .file with
  | some _, some _ => .error .conflict
  | none, none => .error .missingOption
  | workflowId, file => .ok ⟨workflowId, file⟩

/-- How code is to be refactored. -/
def refactoring (progress : Progress) : Refactoring :=
  ⟨progress.value? .intent, (progress.value? .noAssistant).isSome⟩

/-- Which workflows to list. -/
def listOptions (progress : Progress) : Store.ListOptions where
  active := (progress.value? .active).bind readTruth?
  name := progress.value? .name
  limit := (progress.value? .limit).bind readCount?
  cursor := progress.value? .cursor

/-- The command that has been given. -/
def finish (progress : Progress) : Except UsageError Command :=
  match progress.command with
  | .convert =>
    progress.source.map fun source =>
      .convert source progress.refactoring (progress.value? .output)
  | .refactor => .ok (.refactor (progress.value? .codeFile) progress.refactoring)
  | .list => .ok (.list progress.listOptions (progress.value? .json).isSome)
  | .validate => progress.source.map .validate
  | .schema => .ok .schema

end Progress

/-! ### Command lines -/

/-- What an option before any command comes to. -/
def answerOption : Option OptionSpec → UsageError
  | none => .unknownWord
  | some option => if option.kind = .version then .version else .help .program

/-- What help is asked for by the words behind `help`. -/
def answerHelp : List String → UsageError
  | [] => .help .program
  | [word] =>
    if word = helpWord then .help .help
    else
      match CommandName.ofWord? word with
      | some name => .help (.command name)
      | none => .unknownCommand
  | _ => .unknownCommand

/-- Reads a command line, without the name of the program. -/
def Command.parse : List String → Except UsageError Command
  | [] => .error .noCommand
  | word :: rest =>
    match Word.ofText word with
    | .separator =>
      match rest with
      | [] => .error .noCommand
      | next :: _ =>
        if next = helpWord || (CommandName.ofWord? next).isSome then .error .unknownWord
        else .error .unknownCommand
    | .long name value =>
      let option := programOptions.find? fun option => option.long == name
      if option.isSome && value.isSome then .error .surplusValue else .error (answerOption option)
    | .letters first _ =>
      .error (answerOption (programOptions.find? fun option => option.letter == some first))
    | .plain text =>
      match CommandName.ofWord? text with
      | some command => do
        (← readOptions { command } (rest.map Word.ofText)).finish
      | none => .error (if text = helpWord then answerHelp rest else .unknownCommand)

end Cli

end FlowScript
