import FlowScript.Settings

/-!
# Commands and options by name

The words of the command line: which commands there are, which options each of them has,
and what an option takes. Reading and explaining a command line both go by these tables.
-/

namespace FlowScript

namespace Cli

/-! ### What options take -/

/-- What an option takes. -/
inductive ValueKind where
  /-- nothing -/
  | flag
  /-- nothing; it asks for help -/
  | help
  /-- nothing; it asks for the version -/
  | version
  /-- any text -/
  | text
  /-- the path of a file, which is not empty -/
  | path
  /-- `true` or `false` -/
  | truth
  /-- a natural number of 32 bits -/
  | count
deriving DecidableEq

/-- Whether an option of this kind has a value. -/
def ValueKind.takesValue : ValueKind → Bool
  | .flag | .help | .version => false
  | .text | .path | .truth | .count => true

/-- A truth value. -/
def readTruth? (text : String) : Option Bool :=
  if text = "true" then some true else if text = "false" then some false else none

/-- A natural number of 32 bits. A minus sign may stand before zero. -/
def readCount? (text : String) : Option Nat :=
  match text.toList with
  | '-' :: digits => if digits.isEmpty || !digits.all (· == '0') then none else some 0
  | _ => (Natural.parse 4294967295 text).toOption

/-! ### Options -/

/-- An option. -/
structure OptionSpec where
  /-- the long name, without hyphens -/
  long : String
  /-- the letter that stands for it -/
  letter : Option Char := none
  /-- what it takes -/
  kind : ValueKind
  /-- what it is for -/
  purpose : String
deriving DecidableEq

namespace OptionSpec

/-- Names a workflow of the store. -/
def workflowId : OptionSpec where
  long := "workflow-id"
  kind := .text
  purpose := "Workflow id in the store (N8N_URL)"

/-- Names a file with a workflow. -/
def file : OptionSpec where
  long := "file"
  kind := .path
  purpose := "Workflow JSON document on disk"

/-- Says what refactoring is to be done. -/
def intent : OptionSpec where
  long := "intent"
  kind := .text
  purpose := "Free-form refactoring instruction"

/-- Keeps the assistant out. -/
def noAssistant : OptionSpec where
  long := "no-ai"
  kind := .flag
  purpose := "Skip the AI stage even when OPENAI_API_KEY is set"

/-- Names the file to be written. -/
def output : OptionSpec where
  long := "output"
  letter := some 'o'
  kind := .path
  purpose := "Write the code to this path instead of stdout"

/-- Names a file with code. -/
def codeFile : OptionSpec where
  long := "code-file"
  kind := .path
  purpose := "Code to refactor; stdin when omitted"

/-- Chooses workflows that are switched on, or off. -/
def active : OptionSpec where
  long := "active"
  kind := .truth
  purpose := "Only active (true) or inactive (false) workflows"

/-- Chooses workflows by name. -/
def name : OptionSpec where
  long := "name"
  kind := .text
  purpose := "Filter by workflow name"

/-- Bounds a page. -/
def limit : OptionSpec where
  long := "limit"
  kind := .count
  purpose := "Page size"

/-- Says where to go on. -/
def cursor : OptionSpec where
  long := "cursor"
  kind := .text
  purpose := "Continuation cursor from a previous page"

/-- Asks for the page as it is. -/
def json : OptionSpec where
  long := "json"
  kind := .flag
  purpose := "Print the raw page as JSON"

/-- Asks for help. -/
def help : OptionSpec where
  long := "help"
  letter := some 'h'
  kind := .help
  purpose := "Print help"

/-- Asks for the version. -/
def version : OptionSpec where
  long := "version"
  letter := some 'V'
  kind := .version
  purpose := "Print version"

end OptionSpec

/-! ### Commands -/

/-- The commands by name. -/
inductive CommandName where
  /-- `convert` -/
  | convert
  /-- `refactor` -/
  | refactor
  /-- `list` -/
  | list
  /-- `validate` -/
  | validate
  /-- `schema` -/
  | schema
deriving DecidableEq

namespace CommandName

/-- All commands. -/
def all : List CommandName := [.convert, .refactor, .list, .validate, .schema]

/-- The word for a command. -/
def word : CommandName → String
  | .convert => "convert"
  | .refactor => "refactor"
  | .list => "list"
  | .validate => "validate"
  | .schema => "schema"

/-- The command for a word. -/
def ofWord? (word : String) : Option CommandName := all.find? fun name => name.word == word

/-- The options of a command. -/
def options : CommandName → List OptionSpec
  | .convert => [.workflowId, .file, .intent, .noAssistant, .output, .help]
  | .refactor => [.codeFile, .intent, .noAssistant, .help]
  | .list => [.active, .name, .limit, .cursor, .json, .help]
  | .validate => [.workflowId, .file, .help]
  | .schema => [.help]

end CommandName

/-- The options before any command. -/
def programOptions : List OptionSpec := [.help, .version]

/-- The word that asks for help in the place of a command. -/
def helpWord : String := "help"

end Cli

end FlowScript
