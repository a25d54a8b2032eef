import FlowScript.Cli.Option

/-!
# Reading options

The words behind a command are read from left to right. An option is known by its long
name or its letter; one that takes a value has it behind an equals sign or as the next
word. A value that comes as the next word is taken into account only when the next option
is found, or at the end; so where two things are wrong, it matters which of them is met
first.

* `UsageError` lists what can be wrong, and what ends the reading without being wrong.
* `readOptions` reads all words behind a command.
-/

namespace FlowScript

namespace Cli

/-- What help can be about. -/
inductive Topic where
  /-- the program -/
  | program
  /-- one of its commands -/
  | command (name : CommandName)
  /-- asking for help -/
  | help
deriving DecidableEq

/-- What keeps words from being a command to be run. -/
inductive UsageError where
  /-- help is asked for -/
  | help (topic : Topic)
  /-- the version is asked for -/
  | version
  /-- there is no command -/
  | noCommand
  /-- none of several options is given, where one has to be -/
  | missingOption
  /-- options exclude one another, or one is given twice -/
  | conflict
  /-- there is no such command -/
  | unknownCommand
  /-- there is no such option, or no place for a word -/
  | unknownWord
  /-- an option lacks its value, or has one that it cannot take -/
  | badValue
  /-- a number is none, or is out of bounds -/
  | badNumber
  /-- a value is given to an option that takes none -/
  | surplusValue
deriving DecidableEq

/-- The exit code: it is no mistake to ask for help or the version. -/
def UsageError.exitCode : UsageError → Nat
  | .help _ => 0
  | .version => 0
  | _ => 2

/-- Whether an option can take a value. -/
def ValueKind.check (kind : ValueKind) (value : String) : Except UsageError Unit :=
  match kind with
  | .path => if value = "" then .error .badValue else .ok ()
  | .truth => if (readTruth? value).isSome then .ok () else .error .badValue
  | .count => if (readCount? value).isSome then .ok () else .error .badNumber
  | _ => .ok ()

/-! ### Options that have been read -/

/-- What has been read behind a command: options with their values, a flag having an empty
one; and the last option, if its value is still to come or still to be taken into
account. -/
structure Progress where
  /-- the command -/
  command : CommandName
  /-- options with their values, in order -/
  found : List (OptionSpec × String) := []
  /-- an option that waits for its value, or for its value to be taken into account -/
  waiting : Option (OptionSpec × Option String) := none

namespace Progress

/-- The value of an option. -/
def value? (progress : Progress) (option : OptionSpec) : Option String :=
  progress.found.lookup option

/-- Takes an option with its value into account. -/
def add (progress : Progress) (option : OptionSpec) (value : String) :
    Except UsageError Progress :=
  if (progress.value? option).isSome then .error .conflict
  else
    match option.kind.check value with
    | .error error => .error error
    | .ok () => .ok { progress with found := progress.found ++ [(option, value)] }

/-- Takes the waiting option into account. -/
def settle (progress : Progress) : Except UsageError Progress :=
  match progress.waiting with
  | none => .ok progress
  | some (_, none) => .error .badValue
  | some (option, some value) => { progress with waiting := none }.add option value

/-- Meets an option that takes a value, with the value attached to it or without. -/
def meetOption (progress : Progress) (option : OptionSpec) (attached : Option String) :
    Except UsageError Progress := do
  let settled ← progress.settle
  match attached with
  | some value => settled.add option value
  | none => .ok { settled with waiting := some (option, none) }

/-- Meets an option that takes no value. -/
def meetFlag (progress : Progress) (option : OptionSpec) : Except UsageError Progress := do
  let settled ← progress.settle
  match option.kind with
  | .help => .error (.help (.command progress.command))
  | .version => .error .version
  | _ => settled.add option ""

/-- Meets an option by its long name. -/
def meetLong (progress : Progress) (name : String) (attached : Option String) :
    Except UsageError Progress :=
  match progress.command.options.find? fun option => option.long == name with
  | none => .error .unknownWord
  | some option =>
    if option.kind.takesValue then progress.meetOption option attached
    else if attached.isSome then .error .surplusValue
    else progress.meetFlag option

/-- Meets letters behind one hyphen. The first option among them that takes a value has the
rest as its value, without an equals sign before it. -/
def meetLetters (progress : Progress) : List Char → Except UsageError Progress
  | [] => .ok progress
  | c :: rest =>
    match progress.command.options.find? fun option => option.letter == some c with
    | none => .error .unknownWord
    | some option =>
      if option.kind.takesValue then
        progress.meetOption option (match rest with
          | [] => none
          | '=' :: value => some (String.ofList value)
          | value => some (String.ofList value))
      else
        match progress.meetFlag option with
        | .error error => .error error
        | .ok next => next.meetLetters rest

/-- Meets a word that is no option: the value that is waited for, or nothing. -/
def meetPlain (progress : Progress) (word : String) : Except UsageError Progress :=
  match progress.waiting with
  | some (option, none) => .ok { progress with waiting := some (option, some word) }
  | _ => .error .unknownWord

end Progress

/-! ### Words -/

/-- The kinds of words. -/
inductive Word where
  /-- two hyphens and nothing else -/
  | separator
  /-- a long name behind two hyphens, maybe with a value behind an equals sign -/
  | long (name : String) (value : Option String)
  /-- letters behind one hyphen -/
  | letters (first : Char) (rest : List Char)
  /-- any other word, and a hyphen alone -/
  | plain (text : String)
deriving DecidableEq

/-- The kind of a word. -/
def Word.ofText (text : String) : Word :=
  match text.toList with
  | ['-', '-'] => .separator
  | '-' :: '-' :: rest =>
    match rest.dropWhile (· != '=') with
    | _ :: value => .long (String.ofList (rest.takeWhile (· != '='))) (some (String.ofList value))
    | [] => .long (String.ofList rest) none
  | '-' :: c :: rest => .letters c rest
  | _ => .plain text

/-- Reads words behind a command. Two hyphens alone end the options, and as no command has
anything else than options, no word may follow them. -/
def readOptions (progress : Progress) : List Word → Except UsageError Progress
  | [] => progress.settle
  | .separator :: rest => if rest.isEmpty then progress.settle else .error .unknownWord
  | .long name value :: rest => do
    readOptions (← progress.meetLong name value) rest
  | .letters first others :: rest => do
    readOptions (← progress.meetLetters (first :: others)) rest
  | .plain text :: rest => do
    readOptions (← progress.meetPlain text) rest

end Cli

end FlowScript
