import AgentId.HalfEven

/-!
# Double-precision numbers

`double` rounds a rational number to the nearest double, and `Double` is what a double holds: a
rational number, an infinity or NaN.  An order comparison with NaN is false whichever way it is
asked.

* **`double_intCast`** — whole numbers below `2 ^ 53` are doubles.
* **`lt_double`** — rounding to the nearest double does not hide a millionth below `2 ^ 32`.
-/

namespace AgentDouble

open AgentHalfEven

/-! ## Rounding -/

/-- The double nearest to a number. -/
def double (x : ℚ) : ℚ :=
  if x < 0 then -roundSig 2 53 (-1074) (-x) else roundSig 2 53 (-1074) x

@[simp] theorem double_zero : double 0 = 0 := by
  rw [double, if_neg (lt_irrefl 0), roundSig_zero]

theorem roundSig_natCast {n : ℕ} (h : n < 2 ^ 53) : roundSig 2 53 (-1074) (n : ℚ) = n := by
  have hexp : sigExp 2 53 (-1074) ((n : ℚ) * ((2 : ℕ) : ℚ) ^ (0 : ℤ)) ≤ 0 := by
    rw [zpow_zero, mul_one, sigExp, max_le_iff, Int.log_natCast]
    refine ⟨?_, by decide⟩
    have hlog : Nat.log 2 n < 53 := Nat.log_lt_of_lt_pow' (by decide) h
    omega
  have hround := roundSig_natCast_mul_zpow_of_le (α := ℚ) (by decide) n 0 hexp
  rwa [zpow_zero, mul_one] at hround

/-- **WHOLE NUMBERS** of at most 53 binary digits are doubles. -/
theorem double_intCast {n : ℤ} (h : n.natAbs < 2 ^ 53) : double (n : ℚ) = n := by
  rw [double]
  by_cases hneg : (n : ℚ) < 0
  · have hcast : -(n : ℚ) = (n.natAbs : ℚ) := by
      have hn : n < 0 := by exact_mod_cast hneg
      have : ((n.natAbs : ℤ) : ℚ) = ((-n : ℤ) : ℚ) := by
        rw [Int.natCast_natAbs, abs_of_neg hn]
      rw [← Int.cast_neg, ← this, Int.cast_natCast]
    rw [if_pos hneg, hcast, roundSig_natCast h, ← hcast, neg_neg]
  · have hcast : (n : ℚ) = (n.natAbs : ℚ) := by
      have hn : 0 ≤ n := by exact_mod_cast not_lt.mp hneg
      rw [← Int.cast_natCast, Int.natCast_natAbs, abs_of_nonneg hn]
    rw [if_neg hneg, hcast, roundSig_natCast h]

/-- **A MILLIONTH SHOWS**: a number that passes a whole number below `2 ^ 32` by a millionth or more
    still passes it once it is a double. -/
theorem lt_double {n : ℤ} {x : ℚ} (h0 : 0 ≤ n) (hn : n < 2 ^ 32) (hx : (n : ℚ) + 1 / 1000000 ≤ x) :
    (n : ℚ) < double x := by
  have hn0 : (0 : ℚ) ≤ n := by exact_mod_cast h0
  have hxpos : 0 < x := by linarith
  rw [double, if_neg hxpos.le.not_gt]
  rcases lt_or_ge x (2 ^ 33) with hsmall | hlarge
  · -- its last binary place is the twentieth at the latest, and the next number there is a double
    have hplace : sigExp 2 53 (-1074) x ≤ -20 :=
      (sigExp_le_iff (by decide) hxpos (by decide)).mpr (by norm_num; exact hsmall)
    have hgrid : ((n * 2 ^ 20 + 1 : ℤ) : ℚ) * ((2 : ℕ) : ℚ) ^ (-20 : ℤ) ≤ x := by
      push_cast
      norm_num
      linarith
    have hle := grid_le_roundSig (by decide) hplace hgrid
    push_cast at hle
    norm_num at hle
    linarith
  · -- a larger number keeps its leading place
    have hlog : (33 : ℤ) ≤ Int.log 2 x := by
      rw [← Int.zpow_le_iff_le_log (by decide) hxpos]
      exact_mod_cast hlarge
    have hn' : (n : ℚ) < 2 ^ 32 := by exact_mod_cast hn
    calc (n : ℚ) < ((2 : ℕ) : ℚ) ^ (33 : ℤ) := by
          refine hn'.trans ?_
          norm_num
      _ ≤ ((2 : ℕ) : ℚ) ^ Int.log 2 x := zpow_le_zpow_right₀ (by norm_num) hlog
      _ ≤ roundSig 2 53 (-1074) x :=
          zpow_log_le_roundSig (by decide) (by decide) hxpos (by omega)

/-! ## What a double holds -/

/-- A number, an infinity or NaN. -/
inductive Double where
  | finite (q : ℚ)
  | inf
  | negInf
  | nan
  deriving DecidableEq

/-- `a < b` -/
def Double.lt : Double → Double → Bool
  | .finite x, .finite y => decide (x < y)
  | .finite _, .inf => true
  | .negInf, .finite _ => true
  | .negInf, .inf => true
  | _, _ => false

/-- What 64 bits hold: a sign, eleven bits of exponent and the fraction. -/
def Double.ofBits (bits : UInt64) : Double :=
  let sign : ℚ := if bits.toNat / 2 ^ 63 = 0 then 1 else -1
  let exponent : ℕ := bits.toNat / 2 ^ 52 % 2 ^ 11
  let fraction : ℕ := bits.toNat % 2 ^ 52
  if exponent = 2047 then
    if fraction ≠ 0 then .nan else if sign = 1 then .inf else .negInf
  else if exponent = 0 then .finite (sign * fraction * 2 ^ (-1074 : ℤ))
  else .finite (sign * (2 ^ 52 + fraction) * 2 ^ ((exponent : ℤ) - 1075))

example : Double.ofBits 0x3FE0000000000000 = .finite (1 / 2) := by decide +kernel

/-- A number is at most what a double holds; NaN bounds nothing. -/
def Double.Bounds : Double → ℚ → Prop
  | .finite b, x => x ≤ b
  | .inf, _ => True
  | .negInf, _ => False
  | .nan, _ => False

@[simp] theorem Double.lt_finite (x y : ℚ) :
    Double.lt (.finite x) (.finite y) = decide (x < y) := rfl

end AgentDouble
