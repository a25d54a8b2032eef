import FlowScript.Json.Fault

/-!
# Reading JSON text

Readers of the parts of a JSON text. A reader takes the unread source and gives what it
read and the rest, or a fault. Three rules shape this module:

* what is kept may nest a limited number of brackets deep (`readValue`), what is passed
  over may nest without limit (`skipValue`);
* what is passed over is held to the grammar only: its numbers may be of any size and
  its escapes need not pair up;
* a fault is found at the first byte that no continuation could mend, or at the end of
  the text.
-/

namespace FlowScript

namespace Json

/-- A reader of the front of a source. -/
abbrev Reader (α : Type) : Type := Source → Except Fault (α × Source)

/-! ### Blanks and words -/

/-- The blanks between the parts of a JSON text. -/
def isBlank (c : Option Char) : Bool :=
  c == some ' ' || c == some '\n' || c == some '\t' || c == some '\r'

/-- Passes over blanks. -/
def skipBlanks (source : Source) : Source := source.dropWhile isBlank

/-- Whether a decimal digit stands there. -/
def isDigit : Option Char → Bool
  | some c => c.isDigit
  | none => false

/-- The value of a decimal digit. -/
def digitValue : Option Char → Nat
  | some c => c.toNat - 48
  | none => 0

/-- The rest of a word whose first letter told which word it is. -/
def readWord : List Char → Source → Except Fault Source
  | [], rest => .ok rest
  | _ :: _, [] => .error ⟨.endInValue, 0⟩
  | c :: cs, x :: rest =>
    if x = some c then readWord cs rest else .error (.atNext .expectedIdent (x :: rest))

/-! ### Strings -/

/-- The value of a hexadecimal digit. -/
def hexValue? : Option Char → Option Nat
  | some c =>
    let n := c.toNat
    if 48 ≤ n && n ≤ 57 then some (n - 48)
    else if 97 ≤ n && n ≤ 102 then some (n - 87)
    else if 65 ≤ n && n ≤ 70 then some (n - 55)
    else none
  | none => none

/-- The number in the next four bytes, in hexadecimal. -/
def hexUnit (source : Source) : Except Fault Nat :=
  if Source.size (source.take 4) < 4 then .error ⟨.endInString, 0⟩
  else
    match (source.take 4).mapM hexValue? with
    | some digits => .ok (digits.foldl (fun n d => n * 16 + d) 0)
    | none => .error ⟨.invalidEscape, source.size - 4⟩

/-- The character that a one-letter escape stands for. -/
def shortEscape? (c : Char) : Option Char :=
  if c == '\x22' then some '\x22'
  else if c == '\\' then some '\\'
  else if c == '/' then some '/'
  else if c == 'b' then some '\x08'
  else if c == 'f' then some '\x0c'
  else if c == 'n' then some '\n'
  else if c == 'r' then some '\r'
  else if c == 't' then some '\t'
  else none

/-- The second escape of a pair, behind the first, whose number is `high`. -/
def readPair (high : Nat) : Source → Except Fault Char
  | [] => .error ⟨.endInString, 0⟩
  | x :: rest =>
    if x = some '\\' then
      match rest with
      | [] => .error ⟨.endInString, 0⟩
      | y :: after =>
        if y = some 'u' then
          match hexUnit after with
          | .error fault => .error fault
          | .ok low =>
            if 0xdc00 ≤ low && low ≤ 0xdfff then
              .ok (Char.ofNat ((high - 0xd800) * 1024 + (low - 0xdc00) + 0x10000))
            else .error (.before .loneSurrogate (after.drop 4))
        else .error (.atNext .endOfHexEscape (y :: after))
    else .error (.atNext .endOfHexEscape (x :: rest))

/-- The character of an escape, and how many characters behind the backslash it takes. -/
def readEscape : Source → Except Fault (Char × Nat)
  | [] => .error ⟨.endInString, 0⟩
  | x :: rest =>
    if x = some 'u' then
      match hexUnit rest with
      | .error fault => .error fault
      | .ok unit =>
        if 0xdc00 ≤ unit && unit ≤ 0xdfff then
          .error (.before .loneSurrogate (rest.drop 4))
        else if 0xd800 ≤ unit && unit < 0xdc00 then
          (readPair unit (rest.drop 4)).map fun c => (c, 11)
        else .ok (Char.ofNat unit, 5)
    else
      match x.bind shortEscape? with
      | some c => .ok (c, 1)
      | none => .error (.atNext .invalidEscape (x :: rest))

/-- The characters of a string up to its closing quote, after stepping over `skip`
characters that an escape has already taken. -/
def readCharsFrom (skip : Nat) : Source → Except Fault (List Char × Source)
  | [] => .error ⟨.endInString, 0⟩
  | x :: rest =>
    match skip, x with
    | more + 1, _ => readCharsFrom more rest
    | 0, none => .error (.before .invalidUnicode (x :: rest))
    | 0, some c =>
      if c = '\x22' then .ok ([], rest)
      else if c = '\\' then
        match readEscape rest with
        | .error fault => .error fault
        | .ok (d, taken) => (readCharsFrom taken rest).map fun (cs, after) => (d :: cs, after)
      else if c.toNat < 32 then .error (.atNext .controlCharacter (x :: rest))
      else (readCharsFrom 0 rest).map fun (cs, after) => (c :: cs, after)

/-- A string whose opening quote has been read. -/
def readString : Reader String := fun source =>
  (readCharsFrom 0 source).map fun (cs, rest) => (String.ofList cs, rest)

/-- Passes over an escape: how many characters behind the backslash it takes. -/
def skipEscape : Source → Except Fault Nat
  | [] => .error ⟨.endInString, 0⟩
  | x :: rest =>
    if x = some 'u' then (hexUnit rest).map fun _ => 5
    else if (x.bind shortEscape?).isSome then .ok 1
    else .error (.atNext .invalidEscape (x :: rest))

/-- Passes over a string up to its closing quote, after stepping over `skip` characters. -/
def skipStringFrom (skip : Nat) : Source → Except Fault Source
  | [] => .error ⟨.endInString, 0⟩
  | x :: rest =>
    match skip with
    | more + 1 => skipStringFrom more rest
    | 0 =>
      if x = some '\x22' then .ok rest
      else if x = some '\\' then
        match skipEscape rest with
        | .error fault => .error fault
        | .ok taken => skipStringFrom taken rest
      else if (x.map fun c => decide (c.toNat < 32)) = some true then
        .error (.before .controlCharacter (x :: rest))
      else skipStringFrom 0 rest

/-! ### Numbers

The digits of a number are gathered into a significand of at most 64 bits. Digits that
no longer fit are dropped: before the decimal point they still count for the exponent,
behind it they do not. -/

/-- Digits gathered so far: the significand, how many digits went into it, and how many
came after it was full. -/
structure Gathered where
  /-- the digits that fit, as a natural below `2 ^ 64` -/
  significand : Nat
  /-- how many digits the significand took since gathering began -/
  taken : Nat
  /-- how many digits were dropped -/
  dropped : Nat

/-- Gathers one digit. -/
def Gathered.push (g : Gathered) (digit : Nat) : Gathered :=
  if g.dropped = 0 && g.significand * 10 + digit < 18446744073709551616 then
    ⟨g.significand * 10 + digit, g.taken + 1, 0⟩
  else ⟨g.significand, g.taken, g.dropped + 1⟩

/-- Gathers a run of digits into a significand. -/
def gather (significand : Nat) (digits : List (Option Char)) : Gathered :=
  digits.foldl (fun g d => g.push (digitValue d)) ⟨significand, 0, 0⟩

/-- A real number with its sign, if the magnitude is within range. -/
def signedReal (negative : Bool) (magnitude : Option Binary64) (rest : Source) :
    Except Fault (Number × Source) :=
  let number := magnitude.bind fun x => Number.ofBinary64? (if negative then x.neg else x)
  match number with
  | some n => .ok (n, rest)
  | none => .error (.before .numberOutOfRange rest)

/-- The digits of an exponent read as a natural, or the rest behind the digit with which
it passed the greatest 32-bit integer. -/
def readExponentDigits (exponent : Nat) : Source → Except Source (Nat × Source)
  | [] => .ok (exponent, [])
  | x :: rest =>
    if isDigit x then
      let next := exponent * 10 + digitValue x
      if 2147483647 < next then .error rest else readExponentDigits next rest
    else .ok (exponent, x :: rest)

/-- The sign of an exponent, which may be left out, and what follows it. -/
def exponentSign : Source → Bool × Source
  | some '-' :: rest => (true, rest)
  | some '+' :: rest => (false, rest)
  | source => (false, source)

/-- The exponent of a number, behind its letter `e`, and with it the number. An exponent
beyond 32 bits is out of range, unless the result is zero anyway. -/
def readExponent (negative : Bool) (significand : Nat) (start : Int) :
    Reader Number := fun source =>
  let (negativeExponent, digits) := exponentSign source
  match digits with
  | [] => .error ⟨.endInValue, 0⟩
  | x :: rest =>
    if isDigit x then
      match readExponentDigits (digitValue x) rest with
      | .ok (exponent, rest) =>
        let total := if negativeExponent then start - exponent else start + exponent
        signedReal negative (Binary64.scaled significand total) rest
      | .error rest =>
        if significand ≠ 0 && !negativeExponent then .error (.before .numberOutOfRange rest)
        else signedReal negative (some .zero) (rest.dropWhile isDigit)
    else .error (.atNext .invalidNumber (x :: rest))

/-- What follows the digits of a number that is not an integer any more. -/
def readAfterDigits (negative : Bool) (significand : Nat) (exponent : Int) :
    Reader Number := fun source =>
  match source with
  | some 'e' :: rest => readExponent negative significand exponent rest
  | some 'E' :: rest => readExponent negative significand exponent rest
  | _ => signedReal negative (Binary64.scaled significand exponent) source

/-- The decimals of a number, behind its point. -/
def readDecimals (negative : Bool) (significand : Nat) (exponent : Int) :
    Reader Number := fun source =>
  let digits := source.takeWhile isDigit
  let rest := source.dropWhile isDigit
  let gathered := gather significand digits
  if digits.isEmpty then
    match rest with
    | [] => .error ⟨.endInValue, 0⟩
    | _ => .error (.atNext .invalidNumber rest)
  else readAfterDigits negative gathered.significand (exponent - gathered.taken) rest

/-- An integer with its sign; what does not fit 64 bits, and a negative zero, is real. -/
def readWhole (negative : Bool) (significand : Nat) (rest : Source) :
    Except Fault (Number × Source) :=
  let signed : Int := if negative then -significand else significand
  match Number.ofInt? signed with
  | some n =>
    if negative && significand == 0 then signedReal negative (some .zero) rest else .ok (n, rest)
  | none => signedReal negative (some (Binary64.ofNat significand)) rest

/-- What follows the first digits of a number, which are gathered, and with it the number. -/
def readFraction (negative : Bool) (gathered : Gathered) : Reader Number := fun source =>
  match source with
  | some '.' :: rest => readDecimals negative gathered.significand gathered.dropped rest
  | rest =>
    if gathered.dropped = 0 && rest.head? != some (some 'e') &&
        rest.head? != some (some 'E') then
      readWhole negative gathered.significand rest
    else readAfterDigits negative gathered.significand gathered.dropped rest

/-- A number, behind its sign. -/
def readNumber (negative : Bool) : Reader Number := fun source =>
  match source with
  | [] => .error ⟨.endInValue, 0⟩
  | x :: rest =>
    if x = some '0' && rest.head?.any isDigit then .error (.atNext .invalidNumber rest)
    else if !isDigit x then .error (.atNext .invalidNumber (x :: rest))
    else
      readFraction negative (gather 0 (source.takeWhile isDigit)) (source.dropWhile isDigit)

/-- Passes over the exponent of a number, behind its letter. -/
def skipExponent (source : Source) : Except Fault Source :=
  let digits := (exponentSign source).2
  if digits.head?.any isDigit then .ok (digits.dropWhile isDigit)
  else .error (.atNext .invalidNumber digits)

/-- Passes over what follows the digits of a number. -/
def skipAfterDigits (source : Source) : Except Fault Source :=
  match source with
  | some 'e' :: rest => skipExponent rest
  | some 'E' :: rest => skipExponent rest
  | _ => .ok source

/-- Passes over what follows the first digits of a number. -/
def skipFraction (source : Source) : Except Fault Source :=
  match source with
  | some '.' :: decimals =>
    if decimals.head?.any isDigit then skipAfterDigits (decimals.dropWhile isDigit)
    else .error (.atNext .invalidNumber decimals)
  | rest => skipAfterDigits rest

/-- Passes over a number, behind its sign. -/
def skipNumber (source : Source) : Except Fault Source :=
  match source with
  | [] => .error ⟨.invalidNumber, 0⟩
  | x :: rest =>
    if x = some '0' && rest.head?.any isDigit then .error (.atNext .invalidNumber rest)
    else if !isDigit x then .error (.atNext .invalidNumber (x :: rest))
    else skipFraction (source.dropWhile isDigit)

/-! ### Scalars -/

/-- A value that is no array and no object. -/
def readScalar : Reader Value := fun source =>
  match source with
  | [] => .error ⟨.endInValue, 0⟩
  | x :: rest =>
    if x = some 'n' then
      (readWord ['u', 'l', 'l'] rest).map fun rest => (.null, rest)
    else if x = some 't' then
      (readWord ['r', 'u', 'e'] rest).map fun rest => (.bool true, rest)
    else if x = some 'f' then
      (readWord ['a', 'l', 's', 'e'] rest).map fun rest => (.bool false, rest)
    else if x = some '-' then
      (readNumber true rest).map fun (n, rest) => (.num n, rest)
    else if isDigit x then
      (readNumber false source).map fun (n, rest) => (.num n, rest)
    else if x = some '\x22' then
      (readString rest).map fun (s, rest) => (.str s, rest)
    else .error (.atNext .expectedValue source)

/-! ### Arrays and objects

What stands between the parts of an array or an object is read in one step, which tells
whether another part begins or the whole is closed. -/

/-- How an array or an object goes on. -/
inductive Continuation where
  /-- it is closed, and the source goes on behind it -/
  | closed (rest : Source)
  /-- another part begins -/
  | next (rest : Source)

/-- How an array goes on, before its first item or behind an item. -/
def nextItem (first : Bool) (source : Source) : Except Fault Continuation :=
  match skipBlanks source with
  | [] => .error ⟨.endInList, 0⟩
  | x :: rest =>
    if x = some ']' then .ok (.closed rest)
    else if first then .ok (.next (x :: rest))
    else if x = some ',' then
      match skipBlanks rest with
      | [] => .error ⟨.endInValue, 0⟩
      | y :: after =>
        if y = some ']' then .error (.atNext .trailingComma (y :: after))
        else .ok (.next (y :: after))
    else .error (.atNext .expectedListComma (x :: rest))

/-- How an object goes on, before its first member or behind a member. A member begins
behind the opening quote of its key. -/
def nextMember (first : Bool) (source : Source) : Except Fault Continuation :=
  match skipBlanks source with
  | [] => .error ⟨.endInObject, 0⟩
  | x :: rest =>
    if x = some '\x7d' then .ok (.closed rest)
    else if first then
      if x = some '\x22' then .ok (.next rest)
      else .error (.atNext .keyMustBeString (x :: rest))
    else if x = some ',' then
      match skipBlanks rest with
      | [] => .error ⟨.endInValue, 0⟩
      | y :: after =>
        if y = some '\x22' then .ok (.next after)
        else if y = some '\x7d' then .error (.atNext .trailingComma (y :: after))
        else .error (.atNext .keyMustBeString (y :: after))
    else .error (.atNext .expectedObjectComma (x :: rest))

/-- The colon between a key and its value. -/
def readColon (source : Source) : Except Fault Source :=
  match skipBlanks source with
  | [] => .error ⟨.endInObject, 0⟩
  | x :: rest =>
    if x = some ':' then .ok rest else .error (.atNext .expectedColon (x :: rest))

/-- The items of an array, behind its bracket or behind an item. Each item takes at least
one character, so the length of the source bounds their number. -/
def readItems {α : Type} (item : Reader α) : Nat → Bool → Reader (List α)
  | 0, _, _ => .error ⟨.endInList, 0⟩
  | more + 1, first, source =>
    match nextItem first source with
    | .error fault => .error fault
    | .ok (.closed rest) => .ok ([], rest)
    | .ok (.next rest) =>
      match item rest with
      | .error fault => .error fault
      | .ok (a, rest) =>
        match readItems item more false rest with
        | .error fault => .error fault
        | .ok (as, rest) => .ok (a :: as, rest)

/-- The items of an array whose opening bracket has been read. -/
def readArray {α : Type} (item : Reader α) : Reader (List α) := fun source =>
  readItems item (source.length + 1) true source

/-- Goes through the members of an object, behind its brace or behind a member: `step`
takes what has been made so far and the key, reads the colon and the value, and gives
what is made of them. -/
def foldMembers {σ : Type} (step : σ → String → Reader σ) : Nat → Bool → σ → Reader σ
  | 0, _, _, _ => .error ⟨.endInObject, 0⟩
  | more + 1, first, state, source =>
    match nextMember first source with
    | .error fault => .error fault
    | .ok (.closed rest) => .ok (state, rest)
    | .ok (.next rest) =>
      match readString rest with
      | .error fault => .error fault
      | .ok (key, rest) =>
        match step state key rest with
        | .error fault => .error fault
        | .ok (state, rest) => foldMembers step more false state rest

/-- Goes through the members of an object whose opening brace has been read. -/
def foldObject {σ : Type} (step : σ → String → Reader σ) (state : σ) : Reader σ :=
  fun source => foldMembers step (source.length + 1) true state source

/-- One more member of an object: the colon, then the value. -/
def readMember {α σ : Type} (value : Reader α) (insert : σ → String → α → σ) (state : σ)
    (key : String) : Reader σ := fun source =>
  match readColon source with
  | .error fault => .error fault
  | .ok rest =>
    match value rest with
    | .error fault => .error fault
    | .ok (a, rest) => .ok (insert state key a, rest)

/-- A value, of which the items and members are read by `inner`; without one, brackets
are nested too deep. -/
def readValueWith (inner : Option (Reader Value)) : Reader Value := fun source =>
  match skipBlanks source with
  | [] => .error ⟨.endInValue, 0⟩
  | x :: rest =>
    if x = some '[' then
      match inner with
      | none => .error (.atNext .recursionLimit (x :: rest))
      | some value => (readArray value rest).map fun (items, rest) => (.arr items, rest)
    else if x = some '\x7b' then
      match inner with
      | none => .error (.atNext .recursionLimit (x :: rest))
      | some value =>
        (foldObject (readMember value Members.insert) [] rest).map fun (members, rest) =>
          (.obj members, rest)
    else readScalar (x :: rest)

/-- A value whose brackets nest at most `depth` deep. -/
def readValue : Nat → Reader Value
  | 0 => readValueWith none
  | depth + 1 => readValueWith (some (readValue depth))

/-! ### Passing over a value

The brackets that are open are kept in a list, innermost first, so that nesting has no
limit. -/

/-- An open bracket. -/
inductive Bracket where
  /-- of an array -/
  | square
  /-- of an object -/
  | curly
deriving DecidableEq

/-- The character that closes a bracket. -/
def Bracket.closer : Bracket → Char
  | .square => ']'
  | .curly => '\x7d'

/-- The fault of a text that ends within a bracket. -/
def Bracket.endCause : Bracket → Cause
  | .square => .endInList
  | .curly => .endInObject

/-- The fault of a part that is followed by neither comma nor closer. -/
def Bracket.commaCause : Bracket → Cause
  | .square => .expectedListComma
  | .curly => .expectedObjectComma

/-- Passes over a key and its colon. -/
def skipKey (source : Source) : Except Fault Source :=
  match skipBlanks source with
  | [] => .error ⟨.endInObject, 0⟩
  | x :: rest =>
    if x = some '\x22' then
      match skipStringFrom 0 rest with
      | .error fault => .error fault
      | .ok rest => readColon rest
    else .error (.atNext .keyMustBeString (x :: rest))

/-- Passes over a scalar. -/
def skipScalar (source : Source) : Except Fault Source :=
  match source with
  | [] => .error ⟨.endInValue, 0⟩
  | x :: rest =>
    if x = some 'n' then readWord ['u', 'l', 'l'] rest
    else if x = some 't' then readWord ['r', 'u', 'e'] rest
    else if x = some 'f' then readWord ['a', 'l', 's', 'e'] rest
    else if x = some '-' then skipNumber rest
    else if isDigit x then skipNumber source
    else if x = some '\x22' then skipStringFrom 0 rest
    else .error (.atNext .expectedValue source)

/-- Goes on behind a part, or behind an opening bracket, to where the next value begins:
closes brackets as long as they are closed, and tells the brackets that stay open, or
none when the whole value is over. -/
def skipToValue : Nat → Bool → List Bracket → Source → Except Fault (List Bracket × Source)
  | _, _, [], source => .ok ([], source)
  | 0, _, _ :: _, _ => .error ⟨.endInValue, 0⟩
  | more + 1, behindPart, bracket :: outer, source =>
    let goOn := fun (rest : Source) =>
      match bracket with
      | .square => .ok (bracket :: outer, rest)
      | .curly => (skipKey rest).map fun rest => (bracket :: outer, rest)
    match skipBlanks source with
    | [] => .error ⟨bracket.endCause, 0⟩
    | x :: rest =>
      if x = some bracket.closer then skipToValue more true outer rest
      else if behindPart then
        if x = some ',' then goOn rest else .error (.atNext bracket.commaCause (x :: rest))
      else goOn (x :: rest)

/-- Passes over a scalar or an opening bracket, to where the next value begins. -/
def skipStart (brackets : List Bracket) (source : Source) :
    Except Fault (List Bracket × Source) :=
  match skipBlanks source with
  | [] => .error ⟨.endInValue, 0⟩
  | x :: rest =>
    if x = some '[' then skipToValue (rest.length + 1) false (.square :: brackets) rest
    else if x = some '\x7b' then skipToValue (rest.length + 1) false (.curly :: brackets) rest
    else
      match skipScalar (x :: rest) with
      | .error fault => .error fault
      | .ok rest => skipToValue (rest.length + 1) true brackets rest

/-- Passes over the values within open brackets, and over the closing brackets. -/
def skipWithin : Nat → List Bracket → Source → Except Fault Source
  | 0, _, _ => .error ⟨.endInValue, 0⟩
  | more + 1, brackets, source =>
    match skipStart brackets source with
    | .error fault => .error fault
    | .ok ([], rest) => .ok rest
    | .ok (bracket :: outer, rest) => skipWithin more (bracket :: outer) rest

/-- Passes over a value. -/
def skipValue (source : Source) : Except Fault Source :=
  skipWithin (source.length + 1) [] source

/-! ### Documents -/

/-- The brackets of a document that is kept nest at most this deep. -/
def depthLimit : Nat := 127

/-- Reads a whole text: nothing but blanks may follow. -/
def readDocument {α : Type} (reader : Reader α) (source : Source) : Except Fault α :=
  match reader source with
  | .error fault => .error fault
  | .ok (a, rest) =>
    match skipBlanks rest with
    | [] => .ok a
    | after => .error (.atNext .trailingCharacters after)

end Json

end FlowScript
