/-!
# Binary floating-point numbers of 64 bits

A number is kept as its bit pattern, so that two numbers are the same exactly when
their patterns are, and every operation is exact arithmetic on natural numbers
followed by one rounding.

* `Binary64.units` measures the magnitude of a finite number in multiples of
  `2 ^ (-1074)`, the least positive number; every finite number is a whole multiple.
* `Binary64.ofRatio` is the number nearest to a ratio of naturals, a half going to
  the even neighbour; a ratio beyond the greatest number gives infinity.
* `Binary64.mul` and `Binary64.div` round the exact product and quotient once.
-/

namespace FlowScript

/-- A binary floating-point number, by its bit pattern: one sign bit, eleven bits of
exponent, fifty-two bits of fraction. -/
structure Binary64 where
  /-- the bit pattern -/
  bits : UInt64
deriving DecidableEq, Repr

namespace Binary64

/-- The number of fraction patterns, `2 ^ 52`. -/
def fractions : Nat := 4503599627370496

/-- The magnitude pattern of infinity; finite magnitudes lie below it. -/
def infinityPattern : Nat := 2047 * fractions

/-- The number with a given sign and a magnitude pattern below `2 ^ 63`. -/
def ofPattern (negative : Bool) (pattern : Nat) : Binary64 :=
  ⟨UInt64.ofNat (if negative then 9223372036854775808 + pattern else pattern)⟩

/-- The pattern without its sign. -/
def pattern (x : Binary64) : Nat := x.bits.toNat % 9223372036854775808

/-- Whether the sign bit is set; the sign of zero counts. -/
def isNegative (x : Binary64) : Bool := 9223372036854775808 ≤ x.bits.toNat

/-- Whether the number is neither infinite nor the result of an undefined operation. -/
def isFinite (x : Binary64) : Bool := x.pattern < infinityPattern

/-- The exponent step of a number: its significand counts multiples of
`2 ^ (step - 1074)`. -/
def step (x : Binary64) : Nat := x.pattern / fractions - 1

/-- The significand of a finite number, below `2 ^ 53`; the leading bit of a number
that is not tiny is implied by its exponent. -/
def significand (x : Binary64) : Nat :=
  if x.pattern < fractions then x.pattern else x.pattern % fractions + fractions

/-- The magnitude of a finite number in multiples of `2 ^ (-1074)`. -/
def units (x : Binary64) : Nat := x.significand * Nat.pow 2 x.step

/-- Zero, with the positive sign. -/
def zero : Binary64 := ⟨0⟩

/-- The same magnitude with the other sign. -/
def neg (x : Binary64) : Binary64 := ofPattern (!x.isNegative) x.pattern

/-- The quotient of two naturals rounded to the nearest natural, a half going to the
even neighbour. -/
def roundedQuotient (n d : Nat) : Nat :=
  let q := n / d
  let twice := 2 * (n % d)
  if twice < d then q
  else if d < twice then q + 1
  else if q % 2 = 0 then q else q + 1

/-- The magnitude pattern nearest to `n / d`. The step is chosen so that the quotient
has at most fifty-three bits; a quotient that rounds up to the next power of two
carries into the exponent by itself, because a pattern is `step * 2 ^ 52` plus the
significand. -/
def patternOfRatio (n d : Nat) : Nat :=
  if n = 0 then 0
  else
    let coarse := n.log2 + 1021 - d.log2
    let scaled := n * Nat.pow 2 1074
    let step := if 2 * fractions ≤ scaled / (d * Nat.pow 2 coarse) then coarse + 1 else coarse
    min (step * fractions + roundedQuotient scaled (d * Nat.pow 2 step)) infinityPattern

/-- The number nearest to `n / d`. -/
def ofRatio (n d : Nat) : Binary64 := ofPattern false (patternOfRatio n d)

/-- The number nearest to a natural. -/
def ofNat (n : Nat) : Binary64 := ofRatio n 1

/-- The number nearest to an integer. -/
def ofInt (i : Int) : Binary64 :=
  if i < 0 then neg (ofNat i.natAbs) else ofNat i.natAbs

/-- The product of two finite numbers that are not negative, rounded once. -/
def mul (x y : Binary64) : Binary64 := ofRatio (x.units * y.units) (Nat.pow 2 2148)

/-- The quotient of two finite numbers that are not negative, rounded once; the
divisor is positive. -/
def div (x y : Binary64) : Binary64 := ofRatio x.units y.units

/-- The number nearest to a power of ten. -/
def powTen (n : Nat) : Binary64 := ofNat (Nat.pow 10 n)

/-- A significand times a power of ten, in at most three roundings: the significand is
rounded, the power of ten is rounded, and their product or quotient is rounded. Below
`10 ^ (-308)` the power is taken in two parts. The result is `none` where it would be
infinite. -/
def scaled (significand : Nat) (exponent : Int) : Option Binary64 :=
  let start := ofNat significand
  if exponent.natAbs ≤ 308 then
    let result :=
      if 0 ≤ exponent then mul start (powTen exponent.natAbs)
      else div start (powTen exponent.natAbs)
    if result.isFinite then some result else none
  else if significand = 0 then some zero
  else if 0 ≤ exponent then none
  else if (exponent + 308).natAbs ≤ 308 then
    some (div (div start (powTen 308)) (powTen (exponent + 308).natAbs))
  else some zero

end Binary64

end FlowScript
