import FlowScript.Text.Quoted

/-!
# Settings

What the settings of all clients have in common: the environment that they are taken from, how
a number is read in it, and how they describe themselves.
-/

namespace FlowScript

/-! ### Environments

The variables that a program is run with: what it finds under a name. -/

/-- The values of the variables that are set. -/
abbrev Environment : Type := String → Option String

namespace Environment

/-- An environment from a list; where a name occurs twice, the first counts. -/
def ofList (pairs : List (String × String)) : Environment := fun name => pairs.lookup name

/-- Sets a variable unless it is set already. -/
def addNew (environment : Environment) (name value : String) : Environment := fun other =>
  (environment other).or (if other = name then some value else none)

end Environment

/-! ### Reading natural numbers

The decimal text of a natural number within a bound: digits, of which the first may stand
behind a plus sign. The faults are told in the order in which the characters are read. -/

namespace Natural

/-- Why a text is no natural number within the bound. -/
inductive Fault where
  /-- there is nothing -/
  | empty
  /-- a character is no digit -/
  | invalidDigit
  /-- the number is beyond the bound -/
  | tooLarge
deriving DecidableEq

/-- The wording of a fault. -/
def Fault.message : Fault → String
  | .empty => "cannot parse integer from empty string"
  | .invalidDigit => "invalid digit found in string"
  | .tooLarge => "number too large to fit in target type"

/-- Reads further digits behind a number. -/
def parseDigits (bound number : Nat) : List Char → Except Fault Nat
  | [] => .ok number
  | c :: rest =>
    if c.isDigit then
      let next := number * 10 + (c.toNat - 48)
      if bound < next then .error .tooLarge else parseDigits bound next rest
    else .error .invalidDigit

/-- Reads a number up to a bound. -/
def parse (bound : Nat) (text : String) : Except Fault Nat :=
  match text.toList with
  | [] => .error .empty
  | ['+'] => .error .invalidDigit
  | '+' :: digits => parseDigits bound 0 digits
  | digits => parseDigits bound 0 digits

end Natural

/-! ### Descriptions of settings

Settings describe themselves for logs and tests: the name of what they are, and their
fields in order. Secrets are shown only as present or not. -/

namespace Description

/-- A value that may be absent. -/
def option : Option String → String
  | some text => "Some(" ++ text ++ ")"
  | none => "None"

/-- A secret: whether there is one, and nothing of it. -/
def secret (value : Option String) : String :=
  option (value.map fun _ => Text.quoted "<redacted>")

/-- A truth value. -/
def flag (value : Bool) : String := if value then "true" else "false"

/-- The decimals of a number of thousandths, without trailing zeros. -/
def thousandths (n : Nat) : List Char :=
  let digits := Nat.toDigits 10 (1000 + n)
  ((digits.drop 1).reverse.dropWhile (· == '0')).reverse

/-- A duration in milliseconds: from one second on in seconds. -/
def duration (milliseconds : Nat) : String :=
  if milliseconds = 0 then "0ns"
  else if milliseconds < 1000 then toString milliseconds ++ "ms"
  else
    let fraction := thousandths (milliseconds % 1000)
    toString (milliseconds / 1000) ++
      (if fraction.isEmpty then "" else "." ++ String.ofList fraction) ++ "s"

/-- A thing with its fields. -/
def record (name : String) (fields : List (String × String)) : String :=
  name ++ " \x7b " ++
    String.intercalate ", " (fields.map fun (field, value) => field ++ ": " ++ value) ++ " \x7d"

end Description

end FlowScript
