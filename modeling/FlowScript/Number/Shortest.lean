import FlowScript.Number.Binary64

/-!
# The shortest decimal text of a number

Among the decimal numbers that round to a given binary number, the text shows the one
with the fewest digits, and of those the nearest. The search is exact: the value, the
ends of its rounding interval and the decimal candidates are all ratios of naturals.

* `Binary64.digits` finds the digits and the place of the decimal point.
* `Binary64.text` writes them: positional from `1e-5` up to `1e16`, with `.0` after a
  whole number, and otherwise with a signed exponent.
-/

namespace FlowScript

namespace Binary64

/-- A positive decimal number `0.d₁d₂… * 10 ^ point`: `digits` read as a natural, and
the place of the point relative to the first digit. -/
structure Decimal where
  /-- the significant digits, as one natural -/
  digits : Nat
  /-- how many digits stand before the decimal point -/
  point : Int
deriving DecidableEq, Repr

/-! ### The search -/

/-- The number of decimal digits of a natural; zero has none. -/
def digitCount (n : Nat) : Nat := if n = 0 then 0 else (Nat.toDigits 10 n).length

/-- The least `p` with `n / d < 10 ^ p`, for a positive ratio; a first guess from the
lengths of the two numbers is at most one too small. -/
def pointOf (n d : Nat) : Int :=
  let guess : Int := (digitCount n : Int) - digitCount d
  let below :=
    if 0 ≤ guess then n < d * Nat.pow 10 guess.toNat else n * Nat.pow 10 (-guess).toNat < d
  if below then guess else guess + 1

/-- The ratio of a value and the grid `10 ^ exponent`, as numerator and denominator. -/
def onGrid (n d : Nat) (exponent : Int) : Nat × Nat :=
  if 0 ≤ exponent then (n, d * Nat.pow 10 exponent.toNat)
  else (n * Nat.pow 10 (-exponent).toNat, d)

/-- The decimal with the given count of digits nearest to the value, if it rounds back
to the value. All four numbers are over one denominator: the value, and the lower and
upper ends of the interval of numbers that round to it. -/
def candidate (value lower upper denominator : Nat) (closed : Bool) (point : Int)
    (count : Nat) : Option Nat :=
  let exponent := point - count
  let (n, d) := onGrid value denominator exponent
  let nearest := roundedQuotient n d
  let (lo, _) := onGrid lower denominator exponent
  let (hi, _) := onGrid upper denominator exponent
  let fits := fun (c : Nat) =>
    if closed then lo ≤ c * d && c * d ≤ hi else lo < c * d && c * d < hi
  let other := if nearest * d ≤ n then nearest + 1 else nearest - 1
  if fits nearest then some nearest
  else if fits other then some other
  else none

/-- The first count of digits, from `count` on, that has a candidate. Seventeen digits
always suffice, so the fallback is never the shorter answer. -/
def search (value lower upper denominator : Nat) (closed : Bool) (point : Int) :
    Nat → Nat → Decimal
  | 0, count => ⟨(onGrid value denominator (point - count)).1, point⟩
  | more + 1, count =>
    match candidate value lower upper denominator closed point count with
    | some digits => ⟨digits, point + (digitCount digits - count)⟩
    | none => search value lower upper denominator closed point more (count + 1)

/-- The shortest decimal of a positive finite number. The numbers that round to it lie
within half a step on both sides, or a quarter below a power of two, whose lower
neighbour is closer; the ends belong to the interval when the significand is even. -/
def decimal (x : Binary64) : Decimal :=
  let m := x.significand
  let scale := Nat.pow 2 x.step
  let value := 4 * m * scale
  let lower := if m = fractions && x.step != 0 then (4 * m - 1) * scale else (4 * m - 2) * scale
  let upper := (4 * m + 2) * scale
  let denominator := 4 * Nat.pow 2 1074
  search value lower upper denominator (m % 2 == 0) (pointOf value denominator) 17 1

/-- The digits of a positive finite number, without trailing zeros, and the place of
its decimal point. -/
def digits (x : Binary64) : List Char × Int :=
  let found := x.decimal
  let shown := (Nat.toDigits 10 found.digits).reverse.dropWhile (· == '0')
  (shown.reverse, found.point)

/-! ### The text -/

/-- A run of zeros. -/
def zeros (n : Nat) : List Char := List.replicate n '0'

/-- Positional notation, with `.0` after a whole number. -/
def positional (ds : List Char) (point : Int) : List Char :=
  let count : Int := ds.length
  if point ≤ 0 then ['0', '.'] ++ zeros (-point).toNat ++ ds
  else if count ≤ point then ds ++ zeros (point - count).toNat ++ ['.', '0']
  else ds.take point.toNat ++ ['.'] ++ ds.drop point.toNat

/-- One digit, the others after a point, and a signed exponent without padding. -/
def exponential (ds : List Char) (point : Int) : List Char :=
  let exponent := point - 1
  let mantissa := match ds with
    | [] => []
    | [d] => [d]
    | d :: rest => d :: '.' :: rest
  let sign := if exponent < 0 then '-' else '+'
  mantissa ++ ['e', sign] ++ Nat.toDigits 10 exponent.natAbs

/-- The text of a finite magnitude: positional from `1e-5` up to, but not including,
`1e16`. -/
def magnitudeText (x : Binary64) : List Char :=
  if x.pattern = 0 then ['0', '.', '0']
  else
    let (ds, point) := x.digits
    if -5 < point && point ≤ 16 then positional ds point else exponential ds point

/-- The text of a finite number. -/
def text (x : Binary64) : List Char :=
  if x.isNegative then '-' :: x.magnitudeText else x.magnitudeText

end Binary64

end FlowScript
