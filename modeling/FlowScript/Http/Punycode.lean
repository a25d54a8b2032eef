/-!
# Punycode

The spelling of a label of a host name in ASCII. The ASCII characters come first; then,
code point by code point in ascending order, the places of the others are given by the
number of places passed since the last one. These numbers are written with digits of
varying weight, which adapt to the sizes seen so far.
-/

namespace FlowScript

namespace Http

namespace Punycode

/-- The digit with a value below 36: letters first, then figures. -/
def digit (value : Nat) : Char :=
  if value < 26 then Char.ofNat (97 + value) else Char.ofNat (22 + value)

/-- The least value with which a number goes on behind its digit at a weight. -/
def threshold (weight bias : Nat) : Nat := min 26 (max 1 (weight - bias))

/-- The digits of a number; each takes at least a factor of ten away, so its own size
bounds their count. -/
def digits (bias : Nat) : Nat → Nat → Nat → List Char
  | 0, _, _ => []
  | more + 1, weight, number =>
    let least := threshold weight bias
    if number < least then [digit number]
    else
      digit (least + (number - least) % (36 - least)) ::
        digits bias more (weight + 36) ((number - least) / (36 - least))

/-- Brings a number down to the size of a digit, counting the steps. -/
def scaleDown : Nat → Nat → Nat → Nat × Nat
  | 0, number, weight => (number, weight)
  | more + 1, number, weight =>
    if 455 < number then scaleDown more (number / 35) (weight + 36) else (number, weight)

/-- The bias behind a number that was written. -/
def adapt (number written : Nat) (isFirst : Bool) : Nat :=
  let damped := if isFirst then number / 700 else number / 2
  let (rest, weight) := scaleDown number (damped + damped / written) 0
  weight + 36 * rest / (rest + 38)

/-- The state of the encoding. -/
structure State where
  /-- what has been written -/
  output : List Char
  /-- places passed since the last character was written -/
  passed : Nat
  /-- the current bias -/
  bias : Nat
  /-- how many characters have been written -/
  written : Nat

/-- Passes one place of the label while the places of the code point `n` are written. -/
def visit (basics n : Nat) (state : State) (c : Char) : State :=
  if c.toNat < n then { state with passed := state.passed + 1 }
  else if c.toNat = n then
    { output := state.output ++ digits state.bias (state.passed + 1) 36 state.passed,
      passed := 0,
      bias := adapt state.passed (state.written + 1) (state.written == basics),
      written := state.written + 1 }
  else state

/-- Writes the places of the given code points, in ascending order; all below `next` are
done. -/
def writeAll (label : List Char) (basics : Nat) : List Nat → Nat → State → State
  | [], _, state => state
  | n :: rest, next, state =>
    let state := { state with passed := state.passed + (n - next) * (state.written + 1) }
    let state := label.foldl (visit basics n) state
    writeAll label basics rest (n + 1) { state with passed := state.passed + 1 }

/-- The spelling of a label, without the mark that tells it from others. -/
def encode (label : List Char) : List Char :=
  let basic := label.filter fun c => decide (c.toNat < 128)
  let others := ((label.filter fun c => decide (128 ≤ c.toNat)).map Char.toNat).mergeSort
  let state := writeAll label basic.length others.eraseDups 128
    ⟨if basic.isEmpty then [] else basic ++ ['-'], 0, 72, basic.length⟩
  state.output

end Punycode

end Http

end FlowScript
