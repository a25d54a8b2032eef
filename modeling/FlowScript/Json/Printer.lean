import FlowScript.Json.Value

/-!
# The text of a JSON value

The compact text: no blanks, members in their order. A string escapes the quote, the
backslash and the characters below the space, five of which have short names; all other
characters stand as they are.
-/

namespace FlowScript

namespace Json

/-! ### Strings -/

/-- A hexadecimal digit. -/
def hexDigit (n : Nat) : Char := Nat.digitChar n

/-- The form of a character in a JSON string. -/
def escapedChar (c : Char) : List Char :=
  if c == '\x22' then ['\\', '\x22']
  else if c == '\\' then ['\\', '\\']
  else if c.toNat < 32 then
    if c == '\x08' then ['\\', 'b']
    else if c == '\t' then ['\\', 't']
    else if c == '\n' then ['\\', 'n']
    else if c == '\x0c' then ['\\', 'f']
    else if c == '\r' then ['\\', 'r']
    else ['\\', 'u', '0', '0', hexDigit (c.toNat / 16), hexDigit (c.toNat % 16)]
  else [c]

/-- A string between its quotes, the closing one included. -/
def stringBody (cs : List Char) : List Char := cs.flatMap escapedChar ++ ['\x22']

/-- A string in quotes. -/
def stringText (s : String) : List Char := '\x22' :: stringBody s.toList

/-! ### Values -/

mutual

/-- The compact text of a value. -/
def Value.chars : Value → List Char
  | .null => ['n', 'u', 'l', 'l']
  | .bool true => ['t', 'r', 'u', 'e']
  | .bool false => ['f', 'a', 'l', 's', 'e']
  | .num n => n.text
  | .str s => stringText s
  | .arr [] => ['[', ']']
  | .arr (v :: rest) => '[' :: v.chars ++ itemsTail rest
  | .obj [] => ['\x7b', '\x7d']
  | .obj ((k, v) :: rest) => '\x7b' :: stringText k ++ ':' :: v.chars ++ membersTail rest

/-- The items after the first, each behind a comma, and the closing bracket. -/
def itemsTail : List Value → List Char
  | [] => [']']
  | v :: rest => ',' :: v.chars ++ itemsTail rest

/-- The members after the first, each behind a comma, and the closing brace. -/
def membersTail : List (String × Value) → List Char
  | [] => ['\x7d']
  | (k, v) :: rest => ',' :: stringText k ++ ':' :: v.chars ++ membersTail rest

end

/-- The compact text of a value. -/
def Value.text (v : Value) : String := String.ofList v.chars

/-! ### Indented text

One item or member on a line, two spaces deeper than what holds it, and a space behind
each colon; an empty array or object stays closed. -/

/-- A line break and the indentation of a depth. -/
def indentation (depth : Nat) : List Char := '\n' :: List.replicate (2 * depth) ' '

mutual

/-- The indented text of a value that stands at a depth. -/
def Value.indentedAt (depth : Nat) : Value → List Char
  | .null => ['n', 'u', 'l', 'l']
  | .bool true => ['t', 'r', 'u', 'e']
  | .bool false => ['f', 'a', 'l', 's', 'e']
  | .num n => n.text
  | .str s => stringText s
  | .arr [] => ['[', ']']
  | .arr (v :: rest) =>
    '[' :: indentation (depth + 1) ++ v.indentedAt (depth + 1) ++ indentedItems depth rest
  | .obj [] => ['\x7b', '\x7d']
  | .obj ((k, v) :: rest) =>
    '\x7b' :: indentation (depth + 1) ++ stringText k ++ ':' :: ' ' ::
      v.indentedAt (depth + 1) ++ indentedMembers depth rest

/-- The items after the first and the closing bracket. -/
def indentedItems (depth : Nat) : List Value → List Char
  | [] => indentation depth ++ [']']
  | v :: rest =>
    ',' :: indentation (depth + 1) ++ v.indentedAt (depth + 1) ++ indentedItems depth rest

/-- The members after the first and the closing brace. -/
def indentedMembers (depth : Nat) : List (String × Value) → List Char
  | [] => indentation depth ++ ['\x7d']
  | (k, v) :: rest =>
    ',' :: indentation (depth + 1) ++ stringText k ++ ':' :: ' ' ::
      v.indentedAt (depth + 1) ++ indentedMembers depth rest

end

/-- The indented text of a value. -/
def Value.indentedText (v : Value) : String := String.ofList (v.indentedAt 0)

end Json

end FlowScript
