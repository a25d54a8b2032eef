import FlowScript.Cli.Usage

/-!
# Help pages

A page for the program and for each command: what it is for, how it is used, and tables of
commands and options. Entries of a table begin in one column, behind the longest of what
is explained.
-/

namespace FlowScript

namespace Cli

/-- The name of the program. -/
def programName : String := "flowgen"

/-- The answer when the version is asked for. -/
def versionText : String := programName ++ " 0.3.0\n"

/-! ### Tables -/

/-- A text with spaces behind it, up to a width. -/
def padRight (width : Nat) (text : String) : String :=
  text ++ String.ofList (List.replicate (width - text.length) ' ')

/-- A table under a heading. -/
def table (heading : String) (rows : List (String × String)) : String :=
  let width := rows.foldl (fun width (left, _) => max width left.length) 0
  "\n".intercalate
    (heading :: rows.map fun (left, right) => "  " ++ padRight width left ++ "  " ++ right)

/-- A page of sections. -/
def page (sections : List String) : String := "\n\n".intercalate sections ++ "\n"

/-! ### Options -/

/-- What stands for the value of an option. -/
def OptionSpec.placeholder (option : OptionSpec) : String :=
  "<" ++ String.ofList (option.long.toList.map fun c => if c = '-' then '_' else c.toUpper) ++ ">"

/-- How an option is written. -/
def OptionSpec.shape (option : OptionSpec) : String :=
  let name := "--" ++ option.long
  if option.kind.takesValue then name ++ " " ++ option.placeholder else name

/-- The row of an option. -/
def OptionSpec.row (option : OptionSpec) : String × String :=
  let letter := match option.letter with
    | some c => String.ofList ['-', c] ++ ", "
    | none => "    "
  let values := if option.kind = .truth then " [possible values: true, false]" else ""
  (letter ++ option.shape, option.purpose ++ values)

/-! ### Commands -/

/-- What a command is for. -/
def CommandName.purpose : CommandName → String
  | .convert => "Generate JavaScript for a workflow"
  | .refactor => "Refactor existing generated code"
  | .list => "List workflows in the store"
  | .validate => "Report advisory warnings for a workflow"
  | .schema => "Print the JSON Schema of the workflow document"

/-- What stands behind a command. -/
def CommandName.synopsis (name : CommandName) : List String :=
  let source :=
    "<" ++ OptionSpec.workflowId.shape ++ "|" ++ OptionSpec.file.shape ++ ">"
  match name with
  | .convert => ["[OPTIONS]", source]
  | .refactor => ["[OPTIONS]"]
  | .list => ["[OPTIONS]"]
  | .validate => [source]
  | .schema => []

/-- Examples of the use of a command. -/
def CommandName.examples : CommandName → List String
  | .convert =>
    ["Examples:\n    flowgen convert --workflow-id 42\n" ++
      "    flowgen convert --file flow.json --intent \"use const\" --no-ai"]
  | .refactor =>
    ["Example:\n    flowgen refactor --code-file main.js --intent \"use const\""]
  | _ => []

/-- What `help` is for. -/
def helpPurpose : String := "Print this message or the help of the given subcommand(s)"

/-! ### Pages -/

/-- The section that says how something is used. -/
def usageSection (words : List String) : String :=
  "Usage: " ++ " ".intercalate (programName :: words)

/-- The page on a topic. -/
def Topic.page : Topic → String
  | .program =>
    Cli.page
      ["Convert n8n workflows to JavaScript and refactor the result",
        usageSection ["<COMMAND>"],
        table "Commands:"
          (CommandName.all.map (fun name => (name.word, name.purpose)) ++
            [(helpWord, helpPurpose)]),
        table "Options:" (programOptions.map OptionSpec.row)]
  | .command name =>
    Cli.page
      ([name.purpose, usageSection (name.word :: name.synopsis),
        table "Options:" (name.options.map OptionSpec.row)] ++ name.examples)
  | .help =>
    Cli.page
      [helpPurpose, usageSection [helpWord, "[COMMAND]..."],
        table "Arguments:" [("[COMMAND]...", "Print help for the subcommand(s)")]]

/-- What is printed on the output instead of running a command. -/
def UsageError.output : UsageError → String
  | .help topic => topic.page
  | .version => versionText
  | _ => ""

/-- What is wrong, in a sentence. -/
def UsageError.complaint : UsageError → String
  | .help _ | .version => ""
  | .noCommand => Topic.program.page
  | .missingOption => "error: a required option was not given\n"
  | .conflict => "error: options cannot be combined or repeated\n"
  | .unknownCommand => "error: unrecognized subcommand\n"
  | .unknownWord => "error: unexpected argument\n"
  | .badValue => "error: invalid or missing value for an option\n"
  | .badNumber => "error: invalid number for an option\n"
  | .surplusValue => "error: unexpected value for an option\n"

end Cli

end FlowScript
