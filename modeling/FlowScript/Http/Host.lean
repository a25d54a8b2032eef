import FlowScript.Http.Percent
import FlowScript.Http.Punycode
import FlowScript.Text.Lines
import FlowScript.Text.LowerCase

/-!
# Hosts

The host of a URL in its one normal form: a name in lower case and ASCII, an IPv4 address
in four decimal parts, or an IPv6 address in brackets with its longest run of zero pieces
left out.
-/

namespace FlowScript

namespace Http

/-! ### IPv4 -/

/-- The value of a digit in a base, if it is one. -/
def digitIn? (base : Nat) (c : Char) : Option Nat :=
  (hexDigitValue? c).filter fun value => decide (value < base)

/-- A natural number in a base; the empty text is zero. -/
def naturalIn? (base : Nat) (cs : List Char) : Option Nat :=
  (cs.mapM (digitIn? base)).map fun digits => digits.foldl (fun n d => n * base + d) 0

/-- A part of an IPv4 address: hexadecimal behind `0x`, octal behind `0`, else decimal. -/
def ipv4Part? : List Char → Option Nat
  | [] => none
  | '0' :: 'x' :: digits => naturalIn? 16 digits
  | '0' :: 'X' :: digits => naturalIn? 16 digits
  | '0' :: d :: digits => naturalIn? 8 (d :: digits)
  | digits => naturalIn? 10 digits

/-- The labels of a name, without the empty one behind a final dot. -/
def labels (cs : List Char) : List (List Char) :=
  let parts := Text.cut '.' cs
  if parts.getLast? == some [] && 1 < parts.length then parts.dropLast else parts

/-- Whether a name is to be read as an IPv4 address: its last label is a number. -/
def endsInNumber (cs : List Char) : Bool :=
  match (labels cs).getLast? with
  | some label => !label.isEmpty && (label.all Char.isDigit || (ipv4Part? label).isSome)
  | none => false

/-- The number of an IPv4 address: every part but the last is a byte, and the last takes
the bytes that are left. -/
def ipv4Number? (cs : List Char) : Option Nat := do
  let parts ← (labels cs).mapM ipv4Part?
  let last ← parts.getLast?
  let leading := parts.dropLast
  if 3 < leading.length || leading.any (fun part => decide (255 < part)) then none
  else if Nat.pow 256 (4 - leading.length) ≤ last then none
  else
    some (leading.zipIdx.foldl
      (fun n (part, place) => n + part * Nat.pow 256 (3 - place)) last)

/-- An IPv4 address in four decimal parts. -/
def ipv4Text (number : Nat) : List Char :=
  Text.joinWith '.' ([3, 2, 1, 0].map fun place =>
    Nat.toDigits 10 (number / Nat.pow 256 place % 256))

/-! ### IPv6 -/

/-- A piece of an IPv6 address: one to four hexadecimal digits. -/
def ipv6Piece? (cs : List Char) : Option Nat :=
  if cs.isEmpty || 4 < cs.length then none else naturalIn? 16 cs

/-- A decimal byte without leading zeros. -/
def decimalByte? (cs : List Char) : Option Nat :=
  if cs.isEmpty || 3 < cs.length || (1 < cs.length && cs.head? == some '0') then none
  else (naturalIn? 10 cs).filter fun n => decide (n < 256)

/-- The two pieces of an embedded IPv4 address. -/
def embedded? (cs : List Char) : Option (List Nat) := do
  match ← (Text.cut '.' cs).mapM decimalByte? with
  | [a, b, c, d] => some [a * 256 + b, c * 256 + d]
  | _ => none

/-- Pieces between colons; an IPv4 address may stand for the last two. -/
def ipv6Pieces? (cs : List Char) : Option (List Nat) :=
  if cs.isEmpty then some []
  else
    let parts := Text.cut ':' cs
    match parts.getLast? with
    | some last =>
      if last.contains '.' then do
        let front ← parts.dropLast.mapM ipv6Piece?
        let back ← embedded? last
        some (front ++ back)
      else parts.mapM ipv6Piece?
    | none => none

/-- The text before and behind the first double colon. -/
def cutDoubleColon : List Char → Option (List Char × List Char)
  | ':' :: ':' :: rest => some ([], rest)
  | c :: rest => (cutDoubleColon rest).map fun (front, back) => (c :: front, back)
  | [] => none

/-- The eight pieces of an IPv6 address; a double colon stands for at least one zero. -/
def ipv6? (cs : List Char) : Option (List Nat) :=
  match cutDoubleColon cs with
  | none => (ipv6Pieces? cs).filter fun pieces => pieces.length == 8
  | some (front, back) => do
    let front ← ipv6Pieces? front
    let back ← ipv6Pieces? back
    if 7 < front.length + back.length then none
    else some (front ++ List.replicate (8 - front.length - back.length) 0 ++ back)

/-- The length of the run of zeros at the front. -/
def zeroRun (pieces : List Nat) : Nat := (pieces.takeWhile (· == 0)).length

/-- The first longest run of at least two zero pieces, as its place and length. -/
def longestZeroRun (pieces : List Nat) : Option (Nat × Nat) :=
  let runs := (List.range pieces.length).map fun place => (place, zeroRun (pieces.drop place))
  let best := runs.foldl (fun (best : Nat × Nat) run => if best.2 < run.2 then run else best) (0, 0)
  if 1 < best.2 then some best else none

/-- Pieces with colons between them. -/
def piecesText (pieces : List Nat) : List Char :=
  Text.joinWith ':' (pieces.map fun piece => Nat.toDigits 16 piece)

/-- An IPv6 address, with its longest run of zero pieces left out. -/
def ipv6Text (pieces : List Nat) : List Char :=
  match longestZeroRun pieces with
  | some (place, length) =>
    piecesText (pieces.take place) ++ [':', ':'] ++ piecesText (pieces.drop (place + length))
  | none => piecesText pieces

/-! ### Names -/

/-- ASCII characters that no host name may have. -/
def isForbiddenInHost (c : Char) : Bool :=
  c.toNat ≤ 32 || c.toNat == 127 ||
    ['#', '%', '/', ':', '<', '>', '?', '@', '[', '\\', ']', '^', '|'].contains c

/-- Whether a text is ASCII. -/
def isAscii (cs : List Char) : Bool := cs.all fun c => decide (c.toNat < 128)

/-- A label in ASCII. -/
def labelText (label : List Char) : List Char :=
  if isAscii label then label else ['x', 'n', '-', '-'] ++ Punycode.encode label

/-- The dot, for any of the characters that divide the labels of a name. -/
def dotOf (c : Char) : Char :=
  if c == '。' || c == '．' || c == '｡' then '.' else c

/-- A host name in lower case and ASCII. -/
def nameText (cs : List Char) : List Char :=
  Text.joinWith '.' ((Text.cut '.' ((Text.lowerCase cs).map dotOf)).map labelText)

/-- The normal form of a host of a web address. -/
def hostText? (cs : List Char) : Option (List Char) :=
  match cs with
  | '[' :: rest =>
    if rest.getLast? == some ']' then
      (ipv6? rest.dropLast).map fun pieces => '[' :: ipv6Text pieces ++ [']']
    else none
  | _ =>
    let name := nameText (Text.Utf8.tolerant (percentDecode cs)).toList
    if name.isEmpty || name.any isForbiddenInHost then none
    else if endsInNumber name then (ipv4Number? name).map ipv4Text
    else some name

/-- The normal form of a host under any other scheme: only its characters outside
printable ASCII are encoded. -/
def opaqueHostText? (cs : List Char) : Option (List Char) :=
  match cs with
  | '[' :: _ => hostText? cs
  | _ =>
    if cs.any (fun c => isForbiddenInHost c && c != '%') then none
    else some (percentEncode keepOpaque cs)

end Http

end FlowScript
