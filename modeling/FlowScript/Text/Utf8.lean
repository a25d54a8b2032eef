/-!
# UTF-8

Decoding bytes into characters. Bytes that begin no character are not an end to the
decoding: each longest run of bytes that could still have become a character, or each
single byte that could not, gives `none` in the character's place. From this one view of
a byte sequence come the strict reading, which accepts no `none` (`strict?`), and the
tolerant one, which puts the replacement character there (`tolerant`).
-/

namespace FlowScript

namespace Text

namespace Utf8

/-- What is known of a character whose first bytes have been read: how many more bytes it
takes, the bounds for the next of them, and the value of the bits so far. -/
structure Pending where
  /-- bytes still to come -/
  needed : Nat
  /-- least value of the next byte -/
  lower : Nat
  /-- greatest value of the next byte -/
  upper : Nat
  /-- bits read so far -/
  value : Nat

/-- Between characters. -/
def Pending.idle : Pending := ⟨0, 0, 0, 0⟩

/-- What a first byte begins: a whole character, a longer one, or nothing. The bounds of
the second byte exclude overlong forms, surrogates and code points that do not exist. -/
def start (byte : Nat) : List (Option Char) × Pending :=
  if byte < 0x80 then ([some (Char.ofNat byte)], .idle)
  else if byte < 0xc2 then ([none], .idle)
  else if byte < 0xe0 then ([], ⟨1, 0x80, 0xbf, byte - 0xc0⟩)
  else if byte < 0xf0 then
    let lower := if byte == 0xe0 then 0xa0 else 0x80
    let upper := if byte == 0xed then 0x9f else 0xbf
    ([], ⟨2, lower, upper, byte - 0xe0⟩)
  else if byte < 0xf5 then
    let lower := if byte == 0xf0 then 0x90 else 0x80
    let upper := if byte == 0xf4 then 0x8f else 0xbf
    ([], ⟨3, lower, upper, byte - 0xf0⟩)
  else ([none], .idle)

/-- The effect of one byte: the characters it completes, and what is pending after it. -/
def advance (pending : Pending) (byte : Nat) : List (Option Char) × Pending :=
  if pending.needed = 0 then start byte
  else if pending.lower ≤ byte ∧ byte ≤ pending.upper then
    let value := pending.value * 64 + (byte - 0x80)
    if pending.needed = 1 then ([some (Char.ofNat value)], .idle)
    else ([], ⟨pending.needed - 1, 0x80, 0xbf, value⟩)
  else
    let (found, next) := start byte
    (none :: found, next)

/-- Decodes bytes after a pending character. -/
def decodeFrom (pending : Pending) : List UInt8 → List (Option Char)
  | [] => if pending.needed = 0 then [] else [none]
  | byte :: bytes =>
    let (found, next) := advance pending byte.toNat
    found ++ decodeFrom next bytes

/-- The characters of a byte sequence, `none` standing for bytes that form none. -/
def decode (bytes : List UInt8) : List (Option Char) := decodeFrom .idle bytes

/-- The text of a byte sequence, if all of it forms characters. -/
def strict? (bytes : List UInt8) : Option String :=
  ((decode bytes).mapM id).map String.ofList

/-- The text of a byte sequence, with the replacement character where bytes form none. -/
def tolerant (bytes : List UInt8) : String :=
  String.ofList ((decode bytes).map fun found => found.getD '�')

/-- The bytes of a text. -/
def encode (cs : List Char) : List UInt8 := cs.flatMap String.utf8EncodeChar

end Utf8

end Text

end FlowScript
