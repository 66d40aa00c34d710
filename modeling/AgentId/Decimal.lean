import AgentId.Py

/-!
# Finite decimals in the default context

A finite `decimal.Decimal` is a sign, a coefficient and an exponent.  Construction and comparison
are exact; a sum is the exact sum rounded by `fix`, half to even at 28 significant digits, and
overflows past the largest exponent.

* **`fix_ok`** — what `fix` returns has the value `roundSig` gives.
* **`fix_error`** — it raises only on magnitudes that round to `10 ^ emax` or more.
* **`add_ok`**, **`add_error`** — the same for a sum of two numbers that are not negative.
-/

namespace AgentDecimal

open AgentPy AgentHalfEven

/-! ## The context -/

/-- `prec`: the significant digits kept. -/
def prec : ℕ := 28

/-- `Emax` -/
def emax : ℤ := 999999

/-- `Etiny() = Emin - prec + 1` -/
def etiny : ℤ := -1000026

/-- `Etop() = Emax - prec + 1` -/
def etop : ℤ := 999972

/-! ## Numbers -/

/-- A finite decimal. -/
structure Decimal where
  negative : Bool
  coeff : ℕ
  exp : ℤ
  deriving DecidableEq

namespace Decimal

/-- The coefficient with its sign. -/
def signed (d : Decimal) : ℤ := if d.negative then -d.coeff else d.coeff

/-- The exact value. -/
def toRat (d : Decimal) : ℚ := d.signed * 10 ^ d.exp

/-- The value without its sign. -/
def magnitude (d : Decimal) : ℚ := d.coeff * 10 ^ d.exp

/-- `a < b`: comparison never rounds. -/
instance : LT Decimal := ⟨fun a b => a.toRat < b.toRat⟩

instance (a b : Decimal) : Decidable (a < b) := inferInstanceAs (Decidable (a.toRat < b.toRat))

theorem lt_def {a b : Decimal} : a < b ↔ a.toRat < b.toRat := Iff.rfl

/-- `Decimal(0)` -/
def zero : Decimal := ⟨false, 0, 0⟩

@[simp] theorem toRat_zero : zero.toRat = 0 := by
  simp [toRat, signed, zero]

/-- How a decimal stands in an f-string. -/
def part (d : Decimal) : Part := .decimal d.negative d.coeff d.exp

/-! ## Rounding -/

/-- `len(self._int)` of a coefficient that is not zero. -/
def numDigits (c : ℕ) : ℕ := Nat.log 10 c + 1

/-- `exp_min`: the smallest exponent the result may have. -/
def expMin (d : Decimal) : ℤ := max (numDigits d.coeff + d.exp - prec) etiny

/-- A rounded coefficient of one digit too many loses it, one place up. -/
def carry (coeff : ℕ) (exp : ℤ) : ℕ × ℤ :=
  if prec < numDigits coeff then (coeff / 10, exp + 1) else (coeff, exp)

/-- The coefficient left when the digits below `exp_min` are dropped, half to even. -/
def dropped (d : Decimal) : ℕ := divHalfEven d.coeff (10 ^ (d.expMin - d.exp).toNat)

/-- The coefficient and exponent of a rounded number. -/
def rounded (d : Decimal) : ℕ × ℤ := carry d.dropped d.expMin

/-- `_fix` -/
def fix (d : Decimal) : Py Decimal :=
  if d.coeff = 0 then .ok { d with exp := min (max d.exp etiny) emax }
  else if etop < d.expMin then raise .decimalOverflow ["above Emax"]
  else if d.expMin ≤ d.exp then .ok d
  else if etop < d.rounded.2 then raise .decimalOverflow ["above Emax"]
  else .ok ⟨d.negative, d.rounded.1, d.rounded.2⟩

/-- The exact sum, at the smaller exponent. -/
def exactSum (a b : Decimal) : Decimal :=
  let exp := min a.exp b.exp
  let sum := a.signed * 10 ^ (a.exp - exp).toNat + b.signed * 10 ^ (b.exp - exp).toNat
  ⟨if sum = 0 then a.negative && b.negative else decide (sum < 0), sum.natAbs, exp⟩

/-- `a + b` -/
def add (a b : Decimal) : Py Decimal := (exactSum a b).fix

/-! ## What rounding returns -/

/-- The number is the magnitude, with its sign. -/
theorem toRat_of_magnitude (d : Decimal) :
    d.toRat = if d.negative then -d.magnitude else d.magnitude := by
  simp only [toRat, signed, magnitude]
  split_ifs
  · push_cast
    ring
  · rfl

theorem magnitude_nonneg (d : Decimal) : 0 ≤ d.magnitude :=
  mul_nonneg (Nat.cast_nonneg _) (zpow_nonneg (by norm_num) _)

theorem magnitude_pos {d : Decimal} (h : d.coeff ≠ 0) : 0 < d.magnitude :=
  mul_pos (Nat.cast_pos.mpr (Nat.pos_of_ne_zero h)) (zpow_pos (by norm_num) _)

/-- A number that is not negative is its magnitude. -/
theorem magnitude_eq_toRat {d : Decimal} (h : 0 ≤ d.toRat) : d.magnitude = d.toRat := by
  have hm := d.magnitude_nonneg
  rw [toRat_of_magnitude] at h ⊢
  split_ifs at h ⊢
  · linarith
  · rfl

/-- The exponent `fix` rescales to is that of the last of 28 significant places. -/
theorem expMin_eq {d : Decimal} (h : d.coeff ≠ 0) :
    d.expMin = sigExp 10 prec etiny d.magnitude := by
  have hsig : sigExp 10 prec etiny ((d.coeff : ℚ) * ((10 : ℕ) : ℚ) ^ d.exp) = _ :=
    sigExp_natCast_mul_zpow (by decide) h d.exp
  rw [Nat.cast_ofNat] at hsig
  rw [magnitude, hsig, expMin, numDigits, Nat.cast_add, Nat.cast_one]

/-- A rounded coefficient has at most `prec` digits, or is the power of ten past them. -/
theorem dropped_le_pow {d : Decimal} (hexp : d.exp < d.expMin) : d.dropped ≤ 10 ^ prec := by
  simp only [dropped]
  set k := (d.expMin - d.exp).toNat with hk
  have hle : numDigits d.coeff ≤ prec + k := by
    have : (numDigits d.coeff : ℤ) + d.exp - prec ≤ d.expMin := le_max_left _ _
    omega
  have hlt : d.coeff < 10 ^ (prec + k) :=
    (Nat.lt_pow_succ_log_self (by decide) d.coeff).trans_le (Nat.pow_le_pow_right (by decide) hle)
  have hdiv : d.coeff / 10 ^ k < 10 ^ prec := by
    rw [Nat.div_lt_iff_lt_mul (by positivity), ← pow_add]
    exact hlt
  have := divHalfEven_le d.coeff (10 ^ k)
  omega

/-- A coefficient of more than 28 digits is at least 10 to the 28. -/
theorem pow_le_of_lt_numDigits {c : ℕ} (h : prec < numDigits c) : 10 ^ prec ≤ c := by
  have hlog : prec ≤ Nat.log 10 c := Nat.lt_succ_iff.mp h
  have hc : c ≠ 0 := by
    rintro rfl
    rw [Nat.log_zero_right] at hlog
    exact absurd hlog (by decide)
  exact (Nat.pow_le_pow_right (by decide) hlog).trans (Nat.pow_log_le_self 10 hc)

/-- The carry keeps the value. -/
theorem carry_value {c : ℕ} (hc : c ≤ 10 ^ prec) (e : ℤ) :
    ((carry c e).1 : ℚ) * 10 ^ (carry c e).2 = c * 10 ^ e := by
  simp only [carry]
  split_ifs with h
  · have hten : c = 10 * (c / 10) := by
      rw [le_antisymm hc (pow_le_of_lt_numDigits h)]
      exact (by decide : 10 ^ prec = 10 * (10 ^ prec / 10))
    rw [zpow_add₀ (by norm_num), zpow_one]
    conv_rhs => rw [hten]
    push_cast
    ring
  · rfl

/-- Dropping digits keeps the value `roundSig` gives. -/
theorem dropped_value {d : Decimal} (hzero : d.coeff ≠ 0) (hexp : d.exp < d.expMin) :
    (d.dropped : ℚ) * 10 ^ d.expMin = roundSig 10 prec etiny d.magnitude := by
  have hround : roundSig 10 prec etiny ((d.coeff : ℚ) * ((10 : ℕ) : ℚ) ^ d.exp) = _ :=
    roundSig_natCast_mul_zpow_of_lt (by decide) d.coeff d.exp
      (by rw [expMin_eq hzero] at hexp; exact_mod_cast hexp)
  rw [dropped, expMin_eq hzero]
  exact_mod_cast hround.symm

/-- **WHAT `fix` RETURNS** has the sign of the number and its rounded magnitude. -/
theorem fix_ok {d r : Decimal} (h : d.fix = .ok r) :
    r.negative = d.negative ∧ r.magnitude = roundSig 10 prec etiny d.magnitude := by
  simp only [fix] at h
  split_ifs at h with hzero hover hkeep hcarry
  · cases h
    have h0 : d.magnitude = 0 := by rw [magnitude, hzero, Nat.cast_zero, zero_mul]
    refine ⟨rfl, ?_⟩
    rw [h0, roundSig_zero, magnitude, hzero, Nat.cast_zero, zero_mul]
  · exact nomatch h
  · cases h
    refine ⟨rfl, ?_⟩
    rw [expMin_eq hzero] at hkeep
    have hround : roundSig 10 prec etiny ((d.coeff : ℚ) * ((10 : ℕ) : ℚ) ^ d.exp) = _ :=
      roundSig_natCast_mul_zpow_of_le (by decide) d.coeff d.exp (by exact_mod_cast hkeep)
    exact_mod_cast hround.symm
  · exact nomatch h
  · cases h
    have hexp := not_le.mp hkeep
    exact ⟨rfl, (carry_value (dropped_le_pow hexp) _).trans (dropped_value hzero hexp)⟩

/-- **WHERE `fix` RAISES** the number rounds to `10 ^ emax` or more. -/
theorem fix_error {d : Decimal} {e : PyError} (h : d.fix = .error e) :
    e.cls = .decimalOverflow ∧ (10 : ℚ) ^ emax ≤ roundSig 10 prec etiny d.magnitude := by
  simp only [fix] at h
  split_ifs at h with hzero hover hkeep hcarry
  · cases h
    refine ⟨rfl, ?_⟩
    -- the leading digit already stands past the largest exponent
    have hlog : emax ≤ Int.log 10 d.magnitude := by
      rw [expMin_eq hzero, sigExp] at hover
      simp only [etop, etiny, prec] at hover
      simp only [emax]
      omega
    have hkept : ((10 : ℕ) : ℚ) ^ Int.log 10 d.magnitude ≤ roundSig 10 prec etiny d.magnitude :=
      zpow_log_le_roundSig (by decide) (by decide) (magnitude_pos hzero) (by
        simp only [emax] at hlog
        simp only [etiny]
        omega)
    rw [Nat.cast_ofNat] at hkept
    exact (zpow_le_zpow_right₀ (by norm_num) hlog).trans hkept
  · cases h
    refine ⟨rfl, ?_⟩
    -- only the carry pushes the exponent out here, and it happens to a power of ten
    have hdigits : prec < numDigits d.dropped := by
      by_contra hno
      rw [rounded, carry, if_neg hno] at hcarry
      exact hover hcarry
    have hexp : emax ≤ (prec : ℤ) + d.expMin := by
      rw [rounded, carry, if_pos hdigits] at hcarry
      simp only [etop] at hcarry
      simp only [emax, prec]
      omega
    have hpow : ((10 ^ prec : ℕ) : ℚ) ≤ d.dropped :=
      Nat.cast_le.mpr (pow_le_of_lt_numDigits hdigits)
    rw [← dropped_value hzero (not_le.mp hkeep)]
    calc (10 : ℚ) ^ emax ≤ 10 ^ ((prec : ℤ) + d.expMin) := zpow_le_zpow_right₀ (by norm_num) hexp
      _ = ((10 ^ prec : ℕ) : ℚ) * 10 ^ d.expMin := by
        rw [zpow_add₀ (by norm_num), zpow_natCast, Nat.cast_pow, Nat.cast_ofNat]
      _ ≤ d.dropped * 10 ^ d.expMin :=
        mul_le_mul_of_nonneg_right hpow (zpow_nonneg (by norm_num) _)

/-! ## Sums -/

/-- Moving to a smaller exponent keeps the number. -/
theorem toRat_rescale (n : ℤ) {e exp : ℤ} (h : exp ≤ e) :
    ((n * 10 ^ (e - exp).toNat : ℤ) : ℚ) * 10 ^ exp = n * 10 ^ e := by
  obtain ⟨k, hk⟩ := Int.eq_ofNat_of_zero_le (sub_nonneg.mpr h)
  rw [hk, Int.toNat_natCast, show e = k + exp by omega, zpow_add₀ (by norm_num), zpow_natCast]
  push_cast
  ring

/-- The sum is written with its sign and its absolute value. -/
theorem signed_of_sum (sum : ℤ) (zeroSign : Bool) (exp : ℤ) :
    (Decimal.mk (if sum = 0 then zeroSign else decide (sum < 0)) sum.natAbs exp).signed = sum := by
  simp only [signed]
  rcases lt_trichotomy sum 0 with hneg | rfl | hpos
  · rw [if_neg hneg.ne, if_pos (decide_eq_true hneg)]
    exact neg_eq_iff_eq_neg.mpr (Int.ofNat_natAbs_of_nonpos hneg.le)
  · rw [Int.natAbs_zero, Nat.cast_zero, neg_zero, ite_self]
  · rw [if_neg hpos.ne', if_neg (by simp only [decide_eq_true_eq, not_lt]; exact hpos.le)]
    exact Int.natAbs_of_nonneg hpos.le

/-- **THE SUM IS EXACT** before it is fixed. -/
theorem toRat_exactSum (a b : Decimal) : (exactSum a b).toRat = a.toRat + b.toRat := by
  set exp := min a.exp b.exp with hexp
  set sum := a.signed * 10 ^ (a.exp - exp).toNat + b.signed * 10 ^ (b.exp - exp).toNat with hsum
  have hsigned : (exactSum a b).signed = sum := signed_of_sum sum _ exp
  have hvalue : (exactSum a b).toRat = (sum : ℚ) * 10 ^ exp := by
    rw [toRat, hsigned]
    rfl
  rw [hvalue, hsum, Int.cast_add, add_mul, toRat_rescale _ (min_le_left _ _),
    toRat_rescale _ (min_le_right _ _)]
  rfl

/-- **A SUM IS ROUNDED**: two numbers that are not negative add up to their rounded exact sum. -/
theorem add_ok {a b r : Decimal} (ha : 0 ≤ a.toRat) (hb : 0 ≤ b.toRat) (h : a.add b = .ok r) :
    r.toRat = roundSig 10 prec etiny (a.toRat + b.toRat) := by
  have hsum : 0 ≤ (exactSum a b).toRat := by
    rw [toRat_exactSum]
    exact add_nonneg ha hb
  obtain ⟨hneg, hmag⟩ := fix_ok h
  rw [magnitude_eq_toRat hsum, toRat_exactSum] at hmag
  rw [toRat_of_magnitude, ← hmag]
  split_ifs with hr
  · -- a negative number that is not below zero is zero, and rounds to zero
    have hzero : (exactSum a b).toRat = 0 := by
      have := (exactSum a b).magnitude_nonneg
      rw [toRat_of_magnitude, ← hneg, if_pos hr] at hsum ⊢
      linarith
    rw [hmag, ← toRat_exactSum, hzero, roundSig_zero, neg_zero]
  · rfl

/-- The sum of two numbers that are not negative fails by overflow only. -/
theorem add_error {a b : Decimal} {e : PyError} (ha : 0 ≤ a.toRat) (hb : 0 ≤ b.toRat)
    (h : a.add b = .error e) :
    e.cls = .decimalOverflow ∧ (10 : ℚ) ^ emax ≤ roundSig 10 prec etiny (a.toRat + b.toRat) := by
  have hsum : 0 ≤ (exactSum a b).toRat := by
    rw [toRat_exactSum]
    exact add_nonneg ha hb
  have herr := fix_error h
  rwa [magnitude_eq_toRat hsum, toRat_exactSum] at herr

end Decimal

end AgentDecimal
