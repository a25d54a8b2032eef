import FlowScript.Number.Shortest

/-!
# JSON values

A value keeps what the text it came from tells apart and readers of it care about: an
integer is not a floating-point number of the same size, and an object is a list of
members in the order of their first appearance.

* `Json.Integer` ranges over the signed and the unsigned 64-bit integers together;
  anything beyond is a floating-point number.
* `Json.Members.insert` sets a member: a new key goes to the end, and a key that is
  there keeps its place and takes the new value.
* `Json.Found` names what stood in the place of something else, for error messages.
-/

namespace FlowScript

namespace Json

/-! ### Numbers -/

/-- The integers a value can hold as such. -/
abbrev Integer : Type := { i : Int // -9223372036854775808 ≤ i ∧ i < 18446744073709551616 }

/-- The floating-point numbers a value can hold: JSON has no spelling for others. -/
abbrev Real : Type := { x : Binary64 // x.isFinite = true }

/-- A number: an integer within 64 bits, or a finite floating-point number. -/
inductive Number where
  /-- an integer -/
  | int (value : Integer)
  /-- a floating-point number -/
  | real (value : Real)
deriving DecidableEq

namespace Number

/-- An integer as a number, if it is within 64 bits. -/
def ofInt? (i : Int) : Option Number :=
  if h : -9223372036854775808 ≤ i ∧ i < 18446744073709551616 then some (.int ⟨i, h⟩) else none

/-- A floating-point number as a number, if it is finite. -/
def ofBinary64? (x : Binary64) : Option Number :=
  if h : x.isFinite = true then some (.real ⟨x, h⟩) else none

/-- The value of a number in floating point, rounded to the nearest. -/
def toBinary64 : Number → Binary64
  | .int i => Binary64.ofInt i.val
  | .real x => x.val

/-- The decimal digits of an integer. -/
def integerText (i : Int) : List Char :=
  if i < 0 then '-' :: Nat.toDigits 10 i.natAbs else Nat.toDigits 10 i.natAbs

/-- The text of a number: the digits of an integer, the shortest text of a real. -/
def text : Number → List Char
  | .int i => integerText i.val
  | .real x => x.val.text

end Number

/-! ### Values -/

/-- A JSON value. -/
inductive Value where
  /-- `null` -/
  | null
  /-- `true` or `false` -/
  | bool (value : Bool)
  /-- a number -/
  | num (value : Number)
  /-- a string -/
  | str (value : String)
  /-- an array -/
  | arr (items : List Value)
  /-- an object, its members in order -/
  | obj (members : List (String × Value))
deriving Inhabited

/-- The members of an object, in order of first appearance. -/
abbrev Members : Type := List (String × Value)

namespace Members

/-- The value of a member. -/
def get? : Members → String → Option Value
  | [], _ => none
  | (k, v) :: rest, key => if k = key then some v else get? rest key

/-- Sets a member: an existing key keeps its place, a new one goes to the end. -/
def insert : Members → String → Value → Members
  | [], key, value => [(key, value)]
  | (k, v) :: rest, key, value =>
    if k = key then (k, value) :: rest else (k, v) :: insert rest key value

end Members

namespace Value

/-- A natural number as a value, for counts and indexes within 64 bits. -/
def ofUInt64 (n : UInt64) : Value :=
  .num (.int ⟨n.toNat, by have := n.toNat_lt; omega⟩)

/-- A floating-point number as a value; one that is not finite has no spelling and is
`null`. -/
def ofBinary64 (x : Binary64) : Value :=
  if h : x.isFinite = true then .num (.real ⟨x, h⟩) else .null

/-- The member of an object with a given key; other values have none. -/
def get? : Value → String → Option Value
  | .obj members, key => Members.get? members key
  | _, _ => none

/-- The text of a string value. -/
def asString? : Value → Option String
  | .str s => some s
  | _ => none

/-- The truth value of a boolean. -/
def asBool? : Value → Option Bool
  | .bool b => some b
  | _ => none

/-- The value of a number in floating point. -/
def asBinary64? : Value → Option Binary64
  | .num n => some n.toBinary64
  | _ => none

/-- The items of an array. -/
def asArray? : Value → Option (List Value)
  | .arr items => some items
  | _ => none

end Value

/-! ### What was found -/

/-- What stood where something else was expected. -/
inductive Found where
  /-- `null` -/
  | null
  /-- a boolean -/
  | bool (value : Bool)
  /-- a number -/
  | num (value : Number)
  /-- a string -/
  | str (value : String)
  /-- an array -/
  | sequence
  /-- an object -/
  | map
deriving DecidableEq

/-- What a value is found to be. -/
def Value.found : Value → Found
  | .null => .null
  | .bool b => .bool b
  | .num n => .num n
  | .str s => .str s
  | .arr _ => .sequence
  | .obj _ => .map

end Json

end FlowScript
