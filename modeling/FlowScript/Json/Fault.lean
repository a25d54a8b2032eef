import FlowScript.Json.Value
import FlowScript.Text.Quoted

/-!
# Faults in JSON documents

A document can fail to be JSON, or be JSON of another shape than expected. Both are
causes; a fault found while reading text also knows its place, as the number of bytes
that were not read yet.

* `Json.Mismatch` is a difference of shape, which a value can show as well as a text.
* `Json.Cause` adds the errors of the text itself.
* `Json.Position` is a line and a column counted in bytes; `Json.positionAt` walks there.
-/

namespace FlowScript

namespace Json

/-! ### Differences of shape -/

/-- How a value differs from the shape that was expected of it. -/
inductive Mismatch where
  /-- a record lacks a field -/
  | missingField (name : String)
  /-- a record has a field twice -/
  | duplicateField (name : String)
  /-- something of another type stands there -/
  | wrongType (found : Found) (expected : String)
  /-- the type is right and the value is not possible -/
  | wrongValue (found : Found) (expected : String)
  /-- an array has too few or too many items -/
  | wrongLength (count : Nat) (expected : String)
  /-- a string does not read as what it stands for -/
  | unreadable (reason : String)
deriving DecidableEq

/-- What was found, in the words of an error message. -/
def Found.text : Found → String
  | .null => "null"
  | .bool true => "boolean `true`"
  | .bool false => "boolean `false`"
  | .num (.int i) => "integer `" ++ String.ofList (Number.integerText i.val) ++ "`"
  | .num (.real x) => "floating point `" ++ String.ofList x.val.text ++ "`"
  | .str s => "string " ++ Text.quoted s
  | .sequence => "sequence"
  | .map => "map"

/-- The wording of a difference of shape. -/
def Mismatch.message : Mismatch → String
  | .missingField name => "missing field `" ++ name ++ "`"
  | .duplicateField name => "duplicate field `" ++ name ++ "`"
  | .wrongType found expected => "invalid type: " ++ found.text ++ ", expected " ++ expected
  | .wrongValue found expected => "invalid value: " ++ found.text ++ ", expected " ++ expected
  | .wrongLength count expected =>
    "invalid length " ++ toString count ++ ", expected " ++ expected
  | .unreadable reason => reason

/-! ### Causes -/

/-- Why reading a text failed. -/
inductive Cause where
  /-- the text ends where a value should stand, or inside one -/
  | endInValue
  /-- the text ends inside a string -/
  | endInString
  /-- the text ends inside an array -/
  | endInList
  /-- the text ends inside an object -/
  | endInObject
  /-- no value begins here -/
  | expectedValue
  /-- a misspelt `true`, `false` or `null` -/
  | expectedIdent
  /-- a key is not followed by a colon -/
  | expectedColon
  /-- an item is followed by neither comma nor bracket -/
  | expectedListComma
  /-- a member is followed by neither comma nor brace -/
  | expectedObjectComma
  /-- a comma stands before the end -/
  | trailingComma
  /-- something follows the end -/
  | trailingCharacters
  /-- a member does not begin with a string -/
  | keyMustBeString
  /-- a misspelt number -/
  | invalidNumber
  /-- a number beyond floating point -/
  | numberOutOfRange
  /-- an unknown escape in a string -/
  | invalidEscape
  /-- a control character in a string -/
  | controlCharacter
  /-- half of a pair of escapes, or the wrong half first -/
  | loneSurrogate
  /-- the first half of a pair of escapes without the second -/
  | endOfHexEscape
  /-- bytes in a string that form no character -/
  | invalidUnicode
  /-- brackets nested too deep -/
  | recursionLimit
  /-- the text is well formed and has another shape -/
  | mismatch (difference : Mismatch)
deriving DecidableEq

/-- The wording of a cause. -/
def Cause.message : Cause → String
  | .endInValue => "EOF while parsing a value"
  | .endInString => "EOF while parsing a string"
  | .endInList => "EOF while parsing a list"
  | .endInObject => "EOF while parsing an object"
  | .expectedValue => "expected value"
  | .expectedIdent => "expected ident"
  | .expectedColon => "expected `:`"
  | .expectedListComma => "expected `,` or `]`"
  | .expectedObjectComma => "expected `,` or `\x7d`"
  | .trailingComma => "trailing comma"
  | .trailingCharacters => "trailing characters"
  | .keyMustBeString => "key must be a string"
  | .invalidNumber => "invalid number"
  | .numberOutOfRange => "number out of range"
  | .invalidEscape => "invalid escape"
  | .controlCharacter => "control character (\\u0000-\\u001F) found while parsing a string"
  | .loneSurrogate => "lone leading surrogate in hex escape"
  | .endOfHexEscape => "unexpected end of hex escape"
  | .invalidUnicode => "invalid unicode code point"
  | .recursionLimit => "recursion limit exceeded"
  | .mismatch difference => difference.message

/-! ### Places -/

/-- The characters of a text, `none` standing for bytes that form none. -/
abbrev Source : Type := List (Option Char)

/-- The source of a text. -/
def Source.ofString (s : String) : Source := s.toList.map some

/-- How many bytes a character takes. -/
def byteCount : Option Char → Nat
  | some c => c.utf8Size
  | none => 1

/-- How many bytes a source takes. -/
def Source.size : Source → Nat
  | [] => 0
  | c :: rest => byteCount c + Source.size rest

/-- A failed reading: the cause, and how many bytes were not read when it was found. -/
structure Fault where
  /-- why reading failed -/
  cause : Cause
  /-- how many bytes were left -/
  left : Nat
deriving DecidableEq

namespace Fault

/-- A fault found before reading on. -/
def before (cause : Cause) (rest : Source) : Fault := ⟨cause, rest.size⟩

/-- A fault of the next byte, which counts as read; at the end of the text there is none
to count. -/
def atNext (cause : Cause) (rest : Source) : Fault := ⟨cause, rest.size - 1⟩

/-- A difference of shape found before reading on. -/
def ofMismatch (difference : Mismatch) (rest : Source) : Fault :=
  ⟨.mismatch difference, rest.size⟩

end Fault

/-- A place in a text: the line, from 1, and how many bytes of that line were read. -/
structure Position where
  /-- the line, counted from 1 -/
  line : Nat
  /-- the bytes of the line that were read -/
  column : Nat
deriving DecidableEq

/-- The place a number of bytes further on. A line break ends its line; a character that
is only partly within the bytes counts with that part. -/
def positionFrom (place : Position) : Nat → Source → Position
  | 0, _ => place
  | _ + 1, [] => place
  | bytes + 1, c :: rest =>
    if c = some '\n' then positionFrom ⟨place.line + 1, 0⟩ bytes rest
    else positionFrom ⟨place.line, place.column + min (bytes + 1) (byteCount c)⟩
      (bytes + 1 - byteCount c) rest

/-- The place in a text with a number of bytes left. -/
def positionAt (source : Source) (left : Nat) : Position :=
  positionFrom ⟨1, 0⟩ (source.size - left) source

/-- The wording of a fault in a text: the cause and the place. -/
def Fault.message (fault : Fault) (source : Source) : String :=
  let place := positionAt source fault.left
  fault.cause.message ++ " at line " ++ toString place.line ++ " column " ++
    toString place.column

end Json

end FlowScript
