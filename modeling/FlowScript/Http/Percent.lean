import FlowScript.Text.Utf8

/-!
# Percent-encoding

A byte is written as `%` and two upper-case hexadecimal digits. Which characters stand
for themselves differs between the parts of a URL; characters outside ASCII never do.
-/

namespace FlowScript

namespace Http

/-- An upper-case hexadecimal digit. -/
def upperHexDigit (n : Nat) : Char := if n < 10 then Char.ofNat (48 + n) else Char.ofNat (55 + n)

/-- The encoded form of a byte. -/
def percentByte (byte : UInt8) : List Char :=
  ['%', upperHexDigit (byte.toNat / 16), upperHexDigit (byte.toNat % 16)]

/-- The encoded form of all bytes of a character. -/
def percentChar (c : Char) : List Char := (String.utf8EncodeChar c).flatMap percentByte

/-- Encodes the characters that are not kept. -/
def percentEncode (keep : Char → Bool) (cs : List Char) : List Char :=
  cs.flatMap fun c => if keep c then [c] else percentChar c

/-! ### The parts of a URL -/

/-- The printable ASCII characters. -/
def isPrintableAscii (c : Char) : Bool := 32 ≤ c.toNat && c.toNat < 127

/-- Characters that stand for themselves in an opaque path. -/
def keepOpaque (c : Char) : Bool := isPrintableAscii c

/-- Characters that stand for themselves in a fragment. -/
def keepFragment (c : Char) : Bool :=
  isPrintableAscii c && !([' ', '\x22', '<', '>', '\x60'].contains c)

/-- Characters that stand for themselves in a query. -/
def keepQuery (special : Bool) (c : Char) : Bool :=
  isPrintableAscii c && !([' ', '\x22', '#', '<', '>'].contains c) && !(special && c == '\x27')

/-- Characters that stand for themselves in a path. -/
def keepPath (c : Char) : Bool := keepFragment c && !(['#', '?', '\x7b', '\x7d'].contains c)

/-! ### Decoding -/

/-- The value of a hexadecimal digit. -/
def hexDigitValue? (c : Char) : Option Nat :=
  let n := c.toNat
  if 48 ≤ n && n ≤ 57 then some (n - 48)
  else if 97 ≤ n && n ≤ 102 then some (n - 87)
  else if 65 ≤ n && n ≤ 70 then some (n - 55)
  else none

/-- The bytes of a text, with encoded bytes decoded; a `%` without two digits stays. -/
def percentDecode : List Char → List UInt8
  | '%' :: a :: b :: rest =>
    match hexDigitValue? a, hexDigitValue? b with
    | some high, some low => UInt8.ofNat (high * 16 + low) :: percentDecode rest
    | _, _ => String.utf8EncodeChar '%' ++ percentDecode (a :: b :: rest)
  | c :: rest => String.utf8EncodeChar c ++ percentDecode rest
  | [] => []

end Http

end FlowScript
