import FlowScript.Settings
import FlowScript.Text.CharClass
import FlowScript.Text.Quoted
import FlowScript.Text.Utf8

/-!
# Files of variables

A file of lines `name = value`, from which variables are taken that are not set yet.
Blank lines and comments are passed over, `export` may stand before the name, and parts
of the value may be quoted. A value can use other variables, and quotes can extend it
over several lines. The first line that is none of this ends the reading, and the lines
before it count. A value with a null character cannot be set, which ends more than the
reading: the program stops.

* `lines` finds the lines, which takes following the quotes and nothing else.
* `readLine` takes a line apart.
* `valueOf` takes a value apart, one character at a time.
-/

namespace FlowScript

namespace VariableFile

/-! ### Lines -/

/-- Where in a line the reader is, as far as it matters for where the line ends. -/
inductive LineState where
  /-- behind anything else -/
  | complete
  /-- behind white space -/
  | blank
  /-- behind a backslash -/
  | escape
  /-- in double quotes -/
  | weak
  /-- in double quotes, behind a backslash -/
  | weakEscape
  /-- in single quotes -/
  | strong
  /-- in single quotes, behind a backslash -/
  | strongEscape
deriving DecidableEq

/-- What a backslash or a quote begins. -/
def LineState.opening (c : Char) : LineState :=
  if c = '\\' then .escape
  else if c = '\x22' then .weak
  else if c = '\x27' then .strong
  else .complete

/-- The state behind a character. -/
def LineState.next (state : LineState) (c : Char) : LineState :=
  match state with
  | .complete => if Text.isBlank c && c != '\n' && c != '\r' then .blank else .opening c
  | .blank => .opening c
  | .escape => .complete
  | .weak => if c = '\\' then .weakEscape else if c = '\x22' then .complete else .weak
  | .weakEscape => .weak
  | .strong => if c = '\\' then .strongEscape else if c = '\x27' then .complete else .strong
  | .strongEscape => .strong

/-- Reads a row of characters from a state. The result is what stands before a comment,
if one begins behind white space, or else the state at the end. -/
def scanRow (state : LineState) : List Char → List Char × Option LineState
  | [] => ([], some state)
  | c :: rest =>
    if state = .blank ∧ c = '#' then ([], none)
    else
      let (before, found) := scanRow (state.next c) rest
      (c :: before, found)

/-- Without the line feed at the end and a carriage return before it. -/
def withoutLineEnd (cs : List Char) : List Char :=
  match cs.reverse with
  | '\n' :: '\r' :: rest => rest.reverse
  | '\n' :: rest => rest.reverse
  | _ => cs

/-- The lines in rows of characters, where `begun` is a line that the rows before have left
open. A row that is no text ends them, and so does the end within an open line. -/
def linesFrom (begun : List Char) (state : LineState) :
    List (Option (List Char)) → List (List Char)
  | [] => []
  | none :: _ => []
  | some row :: rest =>
    if (Text.trimStart (begun ++ row)).head? = some '#' then [] :: linesFrom [] .complete rest
    else
      match scanRow state row with
      | (before, none) => (begun ++ before) :: linesFrom [] .complete rest
      | (_, some .complete) => withoutLineEnd (begun ++ row) :: linesFrom [] .complete rest
      | (_, some state) => linesFrom (begun ++ row) state rest

/-- The rows of a file, each with its line feed. -/
def rows : List (Option Char) → List (List (Option Char))
  | [] => []
  | c :: rest =>
    if c = some '\n' then [c] :: rows rest
    else
      match rows rest with
      | [] => [[c]]
      | row :: more => (c :: row) :: more

/-- The lines of a file. A byte order mark at its beginning does not count. -/
def lines (content : List UInt8) : List (List Char) :=
  let decoded := Text.Utf8.decode content
  let text := if decoded.head? = some (some '\uFEFF') then decoded.tail else decoded
  linesFrom [] .complete ((rows text).map fun row => row.mapM id)

/-! ### Values -/

/-- The kind of quotes that a character is in. -/
inductive Quotes where
  /-- none -/
  | none
  /-- single quotes, where every character stands for itself -/
  | strong
  /-- double quotes, where variables are used and backslashes count -/
  | weak
deriving DecidableEq

/-- The name of a variable that is being used, as far as it has been read. -/
inductive Use where
  /-- no variable -/
  | none
  /-- a name of letters and digits -/
  | bare (name : List Char)
  /-- a name in braces -/
  | braced (name : List Char)
deriving DecidableEq

/-- How much of a value is still to come. -/
inductive Rest where
  /-- anything -/
  | value
  /-- blanks or a comment -/
  | blanks
  /-- a comment -/
  | comment
deriving DecidableEq

/-- A value that is being read. -/
structure Reading where
  /-- the value so far -/
  value : List Char := []
  /-- the quotes that are open -/
  quotes : Quotes := .none
  /-- whether the character before was a backslash -/
  escaped : Bool := false
  /-- the variable that is being used -/
  use : Use := .none
  /-- what may follow -/
  rest : Rest := .value
deriving DecidableEq

namespace Reading

/-- With another character in the value. -/
def push (reading : Reading) (c : Char) : Reading :=
  { reading with value := reading.value ++ [c] }

/-- With the value of a variable, which is empty if there is none. -/
def expand (environment : Environment) (reading : Reading) (name : List Char) : Reading :=
  let found := (environment (String.ofList name)).getD ""
  { reading with value := reading.value ++ found.toList, use := .none }

/-- With a character behind a backslash. -/
def unescape (reading : Reading) (c : Char) : Option Reading :=
  let reading := { reading with escaped := false }
  if c = 'n' then some (reading.push '\n')
  else if c = '\\' || c = '\x27' || c = '\x22' || c = '$' || c = ' ' then some (reading.push c)
  else none

/-- A character outside of everything that changes its meaning. -/
def readPlain (reading : Reading) (c : Char) : Reading :=
  if c = '$' then { reading with use := .bare [] }
  else if reading.quotes = .weak then
    if c = '\x22' then { reading with quotes := .none }
    else if c = '\\' then { reading with escaped := true }
    else reading.push c
  else if c = '\x27' then { reading with quotes := .strong }
  else if c = '\x22' then { reading with quotes := .weak }
  else if c = '\\' then { reading with escaped := true }
  else if c = ' ' || c = '\t' then { reading with rest := .blanks }
  else reading.push c

/-- A character within a value. The character behind a bare name stands for itself, unless
it begins another use. -/
def readWithin (environment : Environment) (reading : Reading) (c : Char) : Option Reading :=
  if reading.escaped then reading.unescape c
  else if reading.quotes = .strong then
    some (if c = '\x27' then { reading with quotes := .none } else reading.push c)
  else
    match reading.use with
    | .none => some (reading.readPlain c)
    | .bare name =>
      if Text.isAlphanumeric c then some { reading with use := .bare (name ++ [c]) }
      else if c = '\x7b' && name.isEmpty then some { reading with use := .braced [] }
      else
        let expanded := reading.expand environment name
        some (if c = '$' then { expanded with use := .bare [] } else expanded.push c)
    | .braced name =>
      if c = '\x7d' then some (reading.expand environment name)
      else some { reading with use := .braced (name ++ [c]) }

/-- The next character. -/
def next (environment : Environment) (reading : Reading) (c : Char) : Option Reading :=
  match reading.rest with
  | .comment => some reading
  | .blanks =>
    if c = ' ' || c = '\t' then some reading
    else if c = '#' then some { reading with rest := .comment }
    else none
  | .value => reading.readWithin environment c

/-- The value, if nothing is left open. -/
def finish (environment : Environment) (reading : Reading) : Option String :=
  if reading.quotes ≠ .none then none
  else
    match reading.use with
    | .none => some (String.ofList reading.value)
    | .bare name => some (String.ofList (reading.expand environment name).value)
    | .braced _ => none

end Reading

/-- The value that a text stands for. -/
def valueOf (environment : Environment) (cs : List Char) : Option String :=
  (cs.foldlM (Reading.next environment) { }).bind (Reading.finish environment)

/-! ### Variables -/

/-- What a line holds. -/
inductive Line where
  /-- nothing, or a comment -/
  | blank
  /-- a variable -/
  | assignment (name value : String)
  /-- something else -/
  | malformed
deriving DecidableEq

/-- The name at the beginning, and what follows it and white space. -/
def cutName? (cs : List Char) : Option (String × List Char) :=
  let isFirst := fun (c : Char) => c.isAlpha || c == '_'
  let isNext := fun (c : Char) => c.isAlphanum || c == '_' || c == '.'
  if cs.head?.any isFirst then
    some (String.ofList (cs.takeWhile isNext), Text.trimStart (cs.dropWhile isNext))
  else none

/-- A name and the text behind the equals sign. A variable may be called `export`. -/
def cutAssignment? (cs : List Char) : Option (String × List Char) :=
  match cutName? cs with
  | some (name, '=' :: rest) => some (name, Text.trimStart rest)
  | some ("export", rest) =>
    match cutName? rest with
    | some (name, '=' :: rest) => some (name, Text.trimStart rest)
    | _ => none
  | _ => none

/-- Takes a line apart. -/
def readLine (environment : Environment) (line : List Char) : Line :=
  let line := Text.trimStart (Text.trimEnd line)
  if line.isEmpty || line.head? = some '#' then .blank
  else
    match cutAssignment? line with
    | none => .malformed
    | some (name, text) =>
      if text.isEmpty || text.head? = some '#' then .assignment name ""
      else
        match valueOf environment text with
        | some value => .assignment name value
        | none => .malformed

/-- A variable that cannot be set, since its value has a null character. -/
structure Unsettable where
  /-- the name of the variable -/
  name : String
  /-- the value that it was to have -/
  value : String
deriving DecidableEq

/-- The wording, without the place in the program that is named before it. -/
def Unsettable.message (unsettable : Unsettable) : String :=
  "failed to set environment variable `" ++ Text.quoted unsettable.name ++ "` to `" ++
    Text.quoted unsettable.value ++ "`: file name contained an unexpected NUL byte"

/-- Sets a variable that is not set yet, if that can be done. -/
def assign (environment : Environment) (name value : String) : Except Unsettable Environment :=
  if environment name = none ∧ '\x00' ∈ value.toList then .error ⟨name, value⟩
  else .ok (environment.addNew name value)

/-- Takes variables from lines. -/
def loadLines (environment : Environment) :
    List (List Char) → Except Unsettable Environment
  | [] => .ok environment
  | line :: rest =>
    match readLine environment line with
    | .blank => loadLines environment rest
    | .assignment name value => do
      let environment ← assign environment name value
      loadLines environment rest
    | .malformed => .ok environment

/-- Takes variables from a file. -/
def load (environment : Environment) (content : List UInt8) : Except Unsettable Environment :=
  loadLines environment (lines content)

end VariableFile

end FlowScript
