import FlowScript.Json.Value
import Mathlib.Data.Nat.Log

/-!
# Integers are finite in floating point

The exponent of a floating-point number reaches far beyond sixty-four bits, so an integer
of a JSON document never becomes infinite when it is read as a floating-point number
(`Json.Number.isFinite_toBinary64`). The bound comes from the pattern itself: its exponent
step is at most the length of the integer above the step of one, and its significand adds
at most two bits more.
-/

namespace FlowScript

namespace Binary64

/-- The magnitude pattern of a number made of one. -/
theorem pattern_ofPattern (negative : Bool) {n : Nat} (h : n < 9223372036854775808) :
    (ofPattern negative n).pattern = n := by
  cases negative with
  | false =>
    have hn : n % 2 ^ 64 = n := Nat.mod_eq_of_lt (by omega)
    simp only [ofPattern, pattern, Bool.false_eq_true, if_false, UInt64.toNat_ofNat', hn]
    omega
  | true =>
    have hn : (9223372036854775808 + n) % 2 ^ 64 = 9223372036854775808 + n :=
      Nat.mod_eq_of_lt (by omega)
    simp only [ofPattern, pattern, if_true, UInt64.toNat_ofNat', hn]
    omega

theorem infinityPattern_lt : infinityPattern < 9223372036854775808 := by decide

theorem pattern_lt (x : Binary64) : x.pattern < 9223372036854775808 :=
  Nat.mod_lt _ (by decide)

/-- The sign is not part of the magnitude, which decides whether a number is finite. -/
theorem isFinite_neg {x : Binary64} (h : x.isFinite = true) : x.neg.isFinite = true := by
  rw [isFinite, neg, pattern_ofPattern _ x.pattern_lt]
  exact h

/-- Rounding adds at most one to a quotient. -/
theorem roundedQuotient_le (n d : Nat) : roundedQuotient n d ≤ n / d + 1 := by
  rw [roundedQuotient]
  split
  · omega
  · split
    · omega
    · split <;> omega

/-- The length of a quotient by a power of two. -/
theorem mul_pow_div_pow_lt {n shift step bits : Nat} (h : n.log2 + 1 + shift ≤ step + bits) :
    n * Nat.pow 2 shift / (1 * Nat.pow 2 step) < Nat.pow 2 bits := by
  have hn : n < 2 ^ (n.log2 + 1) := Nat.lt_log2_self
  rw [Nat.one_mul]
  apply Nat.div_lt_of_lt_mul
  calc n * 2 ^ shift < 2 ^ (n.log2 + 1) * 2 ^ shift :=
        Nat.mul_lt_mul_of_pos_right hn (Nat.two_pow_pos shift)
    _ = 2 ^ (n.log2 + 1 + shift) := (Nat.pow_add ..).symm
    _ ≤ 2 ^ (step + bits) := Nat.pow_le_pow_right (by decide) h
    _ = 2 ^ step * 2 ^ bits := Nat.pow_add ..

/-- So a rounded significand may be one bit longer than the bits that it was cut to, and no
longer. -/
theorem roundedQuotient_le_pow {n shift step bits : Nat}
    (h : n.log2 + 1 + shift ≤ step + bits) :
    roundedQuotient (n * Nat.pow 2 shift) (1 * Nat.pow 2 step) ≤ Nat.pow 2 bits :=
  Nat.le_trans (roundedQuotient_le _ _) (Nat.succ_le_of_lt (mul_pow_div_pow_lt h))

/-- The pattern of a natural of sixty-four bits is far below that of infinity. -/
theorem patternOfRatio_lt {n : Nat} (h : n < 18446744073709551616) :
    patternOfRatio n 1 < infinityPattern := by
  by_cases hzero : n = 0
  · rw [patternOfRatio, if_pos hzero]
    decide
  · have hlog : n.log2 < 64 := (Nat.log2_lt hzero).2 (by omega)
    have hone : Nat.log2 1 = 0 := by decide
    rw [patternOfRatio, if_neg hzero, hone, Nat.sub_zero]
    dsimp only
    generalize hshift : 1074 = shift
    generalize hstep : (if 2 * fractions ≤ n * Nat.pow 2 shift / (1 * Nat.pow 2 (n.log2 + 1021))
      then n.log2 + 1021 + 1 else n.log2 + 1021) = step
    have hbounds : n.log2 + 1021 ≤ step ∧ step ≤ 1085 := by
      rw [← hstep]
      split <;> omega
    have hround := @roundedQuotient_le_pow n shift step 54 (by omega)
    have hbits : Nat.pow 2 54 = 4 * fractions := by decide
    have hmul : step * fractions ≤ 1085 * fractions := Nat.mul_le_mul_right _ hbounds.2
    have hpos : 0 < fractions := by decide
    apply Nat.lt_of_le_of_lt (Nat.min_le_left _ _)
    rw [infinityPattern]
    omega

/-- A natural of 64 bits is finite in floating point, since its pattern lies below that of
infinity. -/
theorem isFinite_ofNat {n : Nat} (h : n < 18446744073709551616) : (ofNat n).isFinite = true := by
  have hpattern := patternOfRatio_lt h
  rw [isFinite, ofNat, ofRatio,
    pattern_ofPattern _ (Nat.lt_trans hpattern infinityPattern_lt)]
  exact decide_eq_true hpattern

/-- An integer is the natural of its size, with a sign. -/
theorem isFinite_ofInt {i : Int} (h : i.natAbs < 18446744073709551616) :
    (ofInt i).isFinite = true := by
  rw [ofInt]
  split
  · exact isFinite_neg (isFinite_ofNat h)
  · exact isFinite_ofNat h

theorem isFinite_zero : zero.isFinite = true := by decide

end Binary64

namespace Json

/-- Every number of a document is finite in floating point. -/
theorem Number.isFinite_toBinary64 (n : Number) : n.toBinary64.isFinite = true := by
  cases n with
  | int i =>
    have hrange := i.property
    exact Binary64.isFinite_ofInt (by omega)
  | real x => exact x.property

end Json

end FlowScript
