import FlowScript.Text.CharClass
import FlowScript.Time.Calendar

/-!
# Instants

A point in time, kept in universal time. It is read from the usual text of date, time and
offset, with some freedom: blanks around the separators, a space for the `T`, any number
of decimals. It is written in one way only.

* `Instant.parse` reads a text, `Instant.text` writes it.
* A second of 60 is kept as the last second of its minute with a fraction of one second
  or more, so that it is written as it was read.
-/

namespace FlowScript

/-- A point in time: a day, a second of it, and a fraction in billionths, which reaches
one second or more within a leap second. -/
structure Instant where
  /-- the number of the day -/
  day : Int
  /-- the second of the day -/
  second : Nat
  /-- billionths of a second -/
  nano : Nat
deriving DecidableEq

namespace Instant

/-! ### Reading -/

/-- Why a text is no point in time. -/
inductive Fault where
  /-- the text ends too early -/
  | tooShort
  /-- a character that cannot stand there -/
  | invalid
  /-- a number beyond its bounds, or a day that does not exist -/
  | outOfRange
  /-- something follows -/
  | tooLong
  /-- no such point in universal time -/
  | impossible
deriving DecidableEq

/-- The wording of a fault. -/
def Fault.message : Fault → String
  | .tooShort => "premature end of input"
  | .invalid => "input contains invalid characters"
  | .outOfRange => "input is out of range"
  | .tooLong => "trailing input"
  | .impossible => "no possible date and time matching input"

/-- A reader of the front of a text. -/
abbrev Scanner (α : Type) : Type := List Char → Except Fault (α × List Char)

/-- The number that decimal digits write. -/
def digitsValue (digits : List Char) : Nat :=
  digits.foldl (fun n c => n * 10 + (c.toNat - 48)) 0

/-- A number of at least one digit, of which at most `limit` are taken, or all. -/
def scanNumber (limit : Option Nat) : Scanner Nat := fun cs =>
  let run := cs.takeWhile Char.isDigit
  let digits := match limit with
    | some n => run.take n
    | none => run
  match cs with
  | [] => .error .tooShort
  | _ =>
    if digits.isEmpty then .error .invalid
    else .ok (digitsValue digits, cs.drop digits.length)

/-- A number between bounds, of at most two digits, behind blanks. -/
def scanField (least greatest : Nat) : Scanner Nat := fun cs => do
  let (n, rest) ← scanNumber (some 2) (Text.trimStart cs)
  if n < least || greatest < n then .error .outOfRange else .ok (n, rest)

/-- A year: four digits, or any number of them behind a sign. -/
def scanYear : Scanner Int := fun cs => do
  let (year, rest) ← match Text.trimStart cs with
    | '-' :: rest => (scanNumber none rest).map fun (n, rest) => (-(n : Int), rest)
    | '+' :: rest => (scanNumber none rest).map fun (n, rest) => ((n : Int), rest)
    | rest => (scanNumber (some 4) rest).map fun (n, rest) => ((n : Int), rest)
  if year < -2147483648 || 2147483647 < year then .error .outOfRange else .ok (year, rest)

/-- A separator, behind blanks. -/
def scanSeparator (separator : Char) (cs : List Char) : Except Fault (List Char) :=
  match Text.trimStart cs with
  | [] => .error .tooShort
  | c :: rest => if c = separator then .ok rest else .error .invalid

/-- The decimals of a second as billionths, if there are any. -/
def scanFraction : Scanner Nat := fun cs =>
  match cs with
  | '.' :: rest => do
    let (_, _) ← scanNumber (some 9) rest
    let digits := (rest.takeWhile Char.isDigit).take 9
    .ok (digitsValue digits * Nat.pow 10 (9 - digits.length), rest.dropWhile Char.isDigit)
  | _ => .ok (0, cs)

/-- Two digits. -/
def scanTwoDigits : Scanner (Nat × Nat) := fun cs =>
  match cs with
  | a :: b :: rest =>
    if a.isDigit && b.isDigit then .ok ((a.toNat - 48, b.toNat - 48), rest) else .error .invalid
  | [c] => if c.utf8Size < 2 then .error .tooShort else .error .invalid
  | [] => .error .tooShort

/-- Hours and minutes behind the sign of an offset, in seconds; colons and blanks may
stand between them. -/
def scanHoursMinutes : Scanner Nat := fun cs => do
  let ((h₁, h₂), rest) ← scanTwoDigits cs
  let ((m₁, m₂), rest) ←
    scanTwoDigits (rest.dropWhile fun c => c == ':' || Text.isBlank c)
  if 5 < m₁ then .error .outOfRange
  else .ok ((h₁ * 10 + h₂) * 3600 + (m₁ * 10 + m₂) * 60, rest)

/-- An offset from universal time, in seconds: `UTC`, `Z`, or a sign with hours and
minutes. -/
def scanOffset : Scanner Int := fun cs =>
  if (cs.take 3).map Char.toLower == ['u', 't', 'c'] then .ok (0, cs.drop 3)
  else
    match cs with
    | [] => .error .tooShort
    | c :: rest =>
      if c == 'Z' || c == 'z' then .ok (0, rest)
      else if c == '+' then (scanHoursMinutes rest).map fun (n, rest) => ((n : Int), rest)
      else if c == '-' || c == '−' then
        (scanHoursMinutes rest).map fun (n, rest) => (-(n : Int), rest)
      else .error .invalid

/-- The mark between date and time. -/
def scanMark : List Char → Except Fault (List Char)
  | [] => .error .tooShort
  | c :: rest => if c == 't' || c == 'T' || c == ' ' then .ok rest else .error .invalid

/-- Whether a year is within the calendar's bounds. -/
def isYear (year : Int) : Bool := -262143 ≤ year && year ≤ 262142

/-- A local date and time with its offset, in universal time. -/
def ofLocal (date : Date) (second nano : Nat) (offset : Int) : Except Fault Instant :=
  if !isYear date.year || !date.exists? then .error .outOfRange
  else if 86400 ≤ offset.natAbs then .error .outOfRange
  else
    let total := (second : Int) - offset
    let day := date.toDayNumber + total / 86400
    if isYear (Date.ofDayNumber day).year then .ok ⟨day, (total % 86400).toNat, nano⟩
    else .error .impossible

/-- Reads a point in time. -/
def parse (text : String) : Except Fault Instant := do
  let (year, cs) ← scanYear text.toList
  let cs ← scanSeparator '-' cs
  let (month, cs) ← scanField 1 12 cs
  let cs ← scanSeparator '-' cs
  let (day, cs) ← scanField 1 31 cs
  let cs ← scanMark cs
  let (hour, cs) ← scanField 0 23 cs
  let cs ← scanSeparator ':' cs
  let (minute, cs) ← scanField 0 59 cs
  let cs ← scanSeparator ':' cs
  let (second, cs) ← scanField 0 60 cs
  let (nano, cs) ← scanFraction cs
  let (offset, cs) ← scanOffset (Text.trimStart cs)
  if !(Text.trimStart cs).isEmpty then .error .tooLong
  else
    let seconds := hour * 3600 + minute * 60 + min second 59
    let nano := if second = 60 then nano + 1000000000 else nano
    ofLocal ⟨year, month, day⟩ seconds nano offset

/-! ### Writing -/

/-- A number with at least a count of digits. -/
def padded (width n : Nat) : List Char :=
  let digits := Nat.toDigits 10 n
  List.replicate (width - digits.length) '0' ++ digits

/-- A year: four digits, and beyond them with a sign. -/
def yearText (year : Int) : List Char :=
  if 0 ≤ year && year ≤ 9999 then padded 4 year.toNat
  else (if year < 0 then '-' else '+') :: padded 4 year.natAbs

/-- The date. -/
def dateText (instant : Instant) : List Char :=
  let date := Date.ofDayNumber instant.day
  yearText date.year ++ '-' :: padded 2 date.month ++ '-' :: padded 2 date.day

/-- Hour and minute. -/
def minuteText (instant : Instant) : List Char :=
  padded 2 (instant.second / 3600) ++ ':' :: padded 2 (instant.second / 60 % 60)

/-- A fraction of a second, in three, six or nine digits as it needs. -/
def fractionText (nano : Nat) : List Char :=
  if nano = 0 then []
  else if nano % 1000000 = 0 then '.' :: padded 3 (nano / 1000000)
  else if nano % 1000 = 0 then '.' :: padded 6 (nano / 1000)
  else '.' :: padded 9 nano

/-- The text of a point in time. -/
def text (instant : Instant) : String :=
  let leap := 1000000000 ≤ instant.nano
  let second := instant.second % 60 + if leap then 1 else 0
  let nano := if leap then instant.nano - 1000000000 else instant.nano
  String.ofList (instant.dateText ++ 'T' :: instant.minuteText ++ ':' :: padded 2 second ++
    fractionText nano ++ ['Z'])

/-- Date, hour and minute, for lists. -/
def shortText (instant : Instant) : String :=
  String.ofList (instant.dateText ++ ' ' :: instant.minuteText)

end Instant

end FlowScript
